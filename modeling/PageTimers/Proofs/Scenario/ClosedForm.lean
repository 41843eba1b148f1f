/-
# What a step that advances fires, in numbers

The queue of the virtual clock is not needed to say how many callbacks an
advance from `now` to `target` runs.  It is enough to look at the steps before:

    one for each live one-shot timer whose time has come by `target`, and
    (target - s) / p - (now - s) / p  for each live timer that was scheduled
                                      at `s` and repeats every `p` milliseconds

which is how many multiples of the period lie between.  The step fails if that
is more than the limit, and runs exactly so many otherwise.
-/
import PageTimers.Proofs.Scenario.Agreement

namespace PageTimers

/-! ## Steps one after the other -/

/-- What came of more steps, the reports of earlier ones put in front. -/
def Staged.prepend (reports : List StepReport) (staged : Staged (List StepReport)) :
    Staged (List StepReport) :=
  ⟨staged.stage, staged.result.map (reports ++ ·)⟩

namespace Staged

variable {reports all : List StepReport} {staged : Staged (List StepReport)} {error : ScenarioError}

@[simp] theorem prepend_stage : (staged.prepend reports).stage = staged.stage := rfl

theorem prepend_nil : staged.prepend [] = staged := by
  obtain ⟨stage, result⟩ := staged
  cases result <;> rfl

theorem prepend_prepend (first second : List StepReport) :
    (staged.prepend second).prepend first = staged.prepend (first ++ second) := by
  obtain ⟨stage, result⟩ := staged
  cases result with
  | error e => rfl
  | ok later => exact congrArg (Staged.mk stage ∘ Except.ok) (List.append_assoc _ _ _).symm

theorem prepend_eq_error : (staged.prepend reports).result = .error error ↔
    staged.result = .error error := by
  obtain ⟨stage, result⟩ := staged
  cases result <;> simp [prepend, Except.map]

theorem prepend_eq_ok : (staged.prepend reports).result = .ok all ↔
    ∃ later, staged.result = .ok later ∧ all = reports ++ later := by
  obtain ⟨stage, result⟩ := staged
  cases result <;> simp [prepend, Except.map, eq_comm]

end Staged

namespace Scenario

section Steps

variable {settings : Settings} {index : Nat} {step : Step} {steps first : List Step} {stage : Stage}
  {reports : List StepReport} {error : ScenarioError} {answer : StepAnswer}

/-- How a stage goes on after a step that has succeeded. -/
def reported (index : Nat) (step : Step) (answer : StepAnswer) (stage : Stage) : Stage :=
  stage.journaled (Step.reportEvents (step.report index answer stage) stage)

theorem steps?_cons_of_error (h : (step.apply settings stage).result = .error error) :
    steps? settings index (step :: steps) stage =
      ⟨(step.apply settings stage).stage, .error error⟩ := by
  rw [steps?, h]

theorem steps?_cons_of_ok (h : (step.apply settings stage).result = .ok answer) :
    steps? settings index (step :: steps) stage =
      (steps? settings (index + 1) steps
        (reported index step answer (step.apply settings stage).stage)).prepend
          [step.report index answer (step.apply settings stage).stage] := by
  rw [steps?, h]
  rfl

/-- Where all steps have succeeded, the first has, and then the others. -/
theorem steps?_cons_eq_ok (h : (steps? settings index (step :: steps) stage).result = .ok reports) :
    ∃ answer later, (step.apply settings stage).result = .ok answer ∧
      (steps? settings (index + 1) steps
        (reported index step answer (step.apply settings stage).stage)).result = .ok later ∧
      reports = step.report index answer (step.apply settings stage).stage :: later := by
  cases hstep : (step.apply settings stage).result with
  | error e =>
      rw [steps?_cons_of_error hstep] at h
      cases h
  | ok answer =>
      rw [steps?_cons_of_ok hstep] at h
      obtain ⟨later, hlater, hreports⟩ := Staged.prepend_eq_ok.mp h
      exact ⟨answer, later, rfl, hlater, hreports⟩

theorem length_of_steps? (h : (steps? settings index steps stage).result = .ok reports) :
    reports.length = steps.length := by
  induction steps generalizing index stage reports with
  | nil =>
      cases h
      rfl
  | cons step steps ih =>
      obtain ⟨answer, later, -, hlater, rfl⟩ := steps?_cons_eq_ok h
      rw [List.length_cons, List.length_cons, ih hlater]

theorem steps?_append_of_ok (h : (steps? settings index first stage).result = .ok reports)
    (steps : List Step) :
    steps? settings index (first ++ steps) stage =
      (steps? settings (index + first.length) steps
        (steps? settings index first stage).stage).prepend reports := by
  induction first generalizing index stage reports with
  | nil =>
      cases h
      exact Staged.prepend_nil.symm
  | cons step first ih =>
      obtain ⟨answer, later, hstep, hlater, rfl⟩ := steps?_cons_eq_ok h
      rw [List.cons_append, steps?_cons_of_ok hstep, steps?_cons_of_ok hstep, ih hlater,
        Staged.prepend_prepend, Staged.prepend_stage, List.length_cons, Nat.add_right_comm,
        Nat.add_assoc]
      rfl

theorem steps?_append_of_error (h : (steps? settings index first stage).result = .error error)
    (steps : List Step) :
    (steps? settings index (first ++ steps) stage).result = .error error := by
  induction first generalizing index stage with
  | nil => cases h
  | cons step first ih =>
      rw [List.cons_append]
      cases hstep : (step.apply settings stage).result with
      | error e =>
          rw [steps?_cons_of_error hstep] at h ⊢
          exact h
      | ok answer =>
          rw [steps?_cons_of_ok hstep, Staged.prepend_eq_error] at h ⊢
          exact ih h

end Steps

/-! ### Runs -/

/-- A run as far as its first `count` steps. -/
def upTo (settings : Settings) (scenario : Scenario) (count : Nat) : Staged (List StepReport) :=
  steps? settings 0 (scenario.steps.take count)
    (Stage.fresh.journaled [.scenarioStarted scenario.name scenario.steps.length])

section Runs

variable {settings : Settings} {scenario : Scenario} {count index : Nat} {step : Step}
  {reports : List StepReport} {error : ScenarioError} {answer : StepAnswer}
  {report : ScenarioReport}

theorem upTo_succ (hstep : scenario.steps[index]? = some step)
    (hreached : (scenario.upTo settings index).result = .ok reports) :
    scenario.upTo settings (index + 1) =
      (steps? settings index [step] (scenario.upTo settings index).stage).prepend reports := by
  have hindex : index < scenario.steps.length := (List.getElem?_eq_some_iff.mp hstep).1
  have htake : scenario.steps.take (index + 1) = scenario.steps.take index ++ [step] := by
    rw [List.take_add_one, hstep, Option.toList_some]
  have hlength : (scenario.steps.take index).length = index :=
    List.length_take_of_le (Nat.le_of_lt hindex)
  rw [upTo, htake, steps?_append_of_ok hreached, hlength, Nat.zero_add]
  rfl

theorem upTo_succ_of_error (hstep : scenario.steps[index]? = some step)
    (hreached : (scenario.upTo settings index).result = .ok reports)
    (h : (step.apply settings (scenario.upTo settings index).stage).result = .error error) :
    (scenario.upTo settings (index + 1)).result = .error error := by
  rw [upTo_succ hstep hreached, Staged.prepend_eq_error, steps?_cons_of_error h]

theorem upTo_succ_of_ok (hstep : scenario.steps[index]? = some step)
    (hreached : (scenario.upTo settings index).result = .ok reports)
    (h : (step.apply settings (scenario.upTo settings index).stage).result = .ok answer) :
    (scenario.upTo settings (index + 1)).result = .ok (reports ++
      [step.report index answer (step.apply settings (scenario.upTo settings index).stage).stage]) := by
  rw [upTo_succ hstep hreached, Staged.prepend_eq_ok]
  refine ⟨_, ?_, rfl⟩
  rw [steps?_cons_of_ok h]
  rfl

theorem stage_upTo_succ (hstep : scenario.steps[index]? = some step)
    (hreached : (scenario.upTo settings index).result = .ok reports)
    (h : (step.apply settings (scenario.upTo settings index).stage).result = .ok answer) :
    (scenario.upTo settings (index + 1)).stage =
      reported index step answer (step.apply settings (scenario.upTo settings index).stage).stage := by
  rw [upTo_succ hstep hreached, Staged.prepend_stage, steps?_cons_of_ok h]
  rfl

/-- What has failed stays as it is. -/
theorem upTo_succ_of_failed (h : (scenario.upTo settings count).result = .error error) :
    (scenario.upTo settings (count + 1)).result = .error error := by
  rw [upTo] at h ⊢
  rw [List.take_add_one, steps?_append_of_error h]

section Whole

variable (hvalid : scenario.validate = .ok ())

include hvalid

/-- A run stops at the first step that fails. -/
theorem run_of_upTo_error (h : (scenario.upTo settings count).result = .error error) :
    (scenario.run settings).result = .error error := by
  have hsteps := steps?_append_of_error h (scenario.steps.drop count)
  rw [List.take_append_drop] at hsteps
  rw [run, hvalid]
  simp only [perform, hsteps]

/-- The reports of a run begin with those of its first steps. -/
theorem isPrefix_of_run (h : (scenario.upTo settings count).result = .ok reports)
    (hrun : (scenario.run settings).result = .ok report) : reports <+: report.steps := by
  have hsteps := steps?_append_of_ok h (scenario.steps.drop count)
  rw [List.take_append_drop] at hsteps
  rw [run, hvalid] at hrun
  simp only [perform, hsteps] at hrun
  split at hrun
  · cases hrun
  · next all hall =>
    obtain ⟨later, -, rfl⟩ := Staged.prepend_eq_ok.mp hall
    cases hrun
    exact List.prefix_append reports later

/-- The report of a step that was reached stands at its place. -/
theorem getElem?_of_run {last : StepReport} (hindex : index < scenario.steps.length)
    (hreached : (scenario.upTo settings index).result = .ok reports)
    (h : (scenario.upTo settings (index + 1)).result = .ok (reports ++ [last]))
    (hrun : (scenario.run settings).result = .ok report) : report.steps[index]? = some last := by
  obtain ⟨later, hsteps⟩ := isPrefix_of_run hvalid h hrun
  have hlength : reports.length = index := by
    rw [length_of_steps? hreached, List.length_take_of_le (Nat.le_of_lt hindex)]
  rw [← hsteps, List.append_assoc, ← hlength, List.getElem?_append_right (Nat.le_refl _),
    Nat.sub_self]
  rfl

end Whole

end Runs

end Scenario

/-! ## The clock and the timers along a run -/

theorem Stage.le_now_of_drained {settings : Settings} {ms : UInt64} {stage : Stage} {count : Nat}
    (h : (stage.drained settings ms).result = .ok count) :
    stage.clock.now + ms.toNat ≤ (stage.drained settings ms).clock.now := by
  rw [drained, VirtualClock.drain] at h ⊢
  by_cases hword : stage.clock.now + ms.toNat < word64
  · rw [VirtualClock.Goal.of_millis hword] at h ⊢
    exact VirtualClock.le_now_of_turns _ _ _ _ _ h
  · rw [VirtualClock.Goal.of, Duration.millis_ofMillis ms.toNat_lt, if_neg hword] at h
    cases h

namespace Step

theorem report_now (index : Nat) (step : Step) (answer : StepAnswer) (stage : Stage) :
    (step.report index answer stage).now = stage.clock.now := rfl

theorem now_cancelAs (kind : TimerKind) (id : Except ScenarioError TimerId) (stage : Stage) :
    (cancelAs kind id stage).stage.clock.now = stage.clock.now := by
  cases id <;> rfl

variable {settings : Settings} {step : Step} {stage : Stage} {answer : StepAnswer}

theorem le_now_of_advance {ms : UInt64}
    (h : ((advance ms).apply settings stage).result = .ok answer) :
    stage.clock.now + ms.toNat ≤ ((advance ms).apply settings stage).stage.clock.now := by
  rw [apply_advance] at h ⊢
  cases hresult : (stage.drained settings ms).result with
  | error e =>
      rw [hresult] at h
      cases h
  | ok count =>
      rw [Stage.after_clock]
      exact Stage.le_now_of_drained hresult

/-- A step that succeeds lets its time pass. -/
theorem le_now_of_apply (h : (step.apply settings stage).result = .ok answer) :
    stage.clock.now + step.passes ≤ (step.apply settings stage).stage.clock.now := by
  cases step with
  | advance ms => exact le_now_of_advance h
  | cancelOnce label => exact Nat.le_of_eq (now_cancelAs _ _ _).symm
  | cancelRepeating label => exact Nat.le_of_eq (now_cancelAs _ _ _).symm
  | _ => exact Nat.le_refl _

end Step

theorem Scenario.le_now_of_steps? {settings : Settings} {steps : List Step} {index : Nat}
    {stage : Stage} {reports : List StepReport}
    (h : (steps? settings index steps stage).result = .ok reports) :
    stage.clock.now + elapsed steps ≤ (steps? settings index steps stage).stage.clock.now := by
  induction steps generalizing index stage reports with
  | nil => exact Nat.le_refl _
  | cons step steps ih =>
      obtain ⟨answer, later, hstep, hlater, -⟩ := steps?_cons_eq_ok h
      have hfirst := Step.le_now_of_apply hstep
      have hrest := ih hlater
      rw [steps?_cons_of_ok hstep, Staged.prepend_stage, elapsed_cons, ← Nat.add_assoc]
      exact Nat.le_trans (Nat.add_le_add_right hfirst _) hrest

namespace Kept

variable {settings : Settings} {before steps : List Step} {index : Nat} {stage : Stage}
  {reports : List StepReport}

/-- Step by step a run agrees with the steps so far. -/
theorem steps? (h : Kept before stage)
    (hnodup : ((schedulings 0 0 (before ++ steps)).map (·.label)).Nodup)
    (htarget : elapsed (before ++ steps) < Duration.lastInstant)
    (hresult : (Scenario.steps? settings index steps stage).result = .ok reports) :
    Kept (before ++ steps) (Scenario.steps? settings index steps stage).stage := by
  induction steps generalizing before index stage reports with
  | nil =>
      rw [List.append_nil]
      exact h
  | cons step steps ih =>
      obtain ⟨answer, later, hstep, hlater, -⟩ := Scenario.steps?_cons_eq_ok hresult
      have hsplit : before ++ step :: steps = (before ++ [step]) ++ steps := by
        rw [List.append_assoc, List.singleton_append]
      rw [hsplit] at hnodup htarget ⊢
      have hnodup' : ((schedulings 0 0 (before ++ [step])).map (·.label)).Nodup := by
        rw [labels_schedulings, List.filterMap_append, ← labels_schedulings 0 0 (before ++ [step])]
          at hnodup
        exact hnodup.sublist (List.sublist_append_left _ _)
      have htarget' : elapsed (before ++ [step]) < Duration.lastInstant := by
        rw [elapsed_append] at htarget
        exact Nat.lt_of_le_of_lt (Nat.le_add_right _ _) htarget
      have happly := (h.apply settings hnodup' htarget' hstep).journaled
        (Step.noFiring_reportEvents (step.report index answer (step.apply settings stage).stage)
          (step.apply settings stage).stage)
      rw [Scenario.steps?_cons_of_ok hstep, Staged.prepend_stage]
      exact ih happly hnodup htarget hlater

end Kept

/-! ## The closed form -/

/-- How many callbacks come due between `now` and `target`, by the steps and by
the journal. -/
def callbacksDue (journal : List (Event TimerId)) (steps : List Step) (now target : Nat) : Nat :=
  (live journal steps).countP (fun s => s.kind == .once && s.time + s.millis ≤ target) +
    (((live journal steps).filter (·.kind == .repeating)).map fun s =>
      (target - s.time) / s.period - (now - s.time) / s.period).sum

theorem sum_firings (schedulings : List Scheduling) (now target : Nat) :
    (schedulings.map (·.firings now target)).sum =
      schedulings.countP (fun s => s.kind == .once && s.time + s.millis ≤ target) +
        ((schedulings.filter (·.kind == .repeating)).map fun s =>
          (target - s.time) / s.period - (now - s.time) / s.period).sum := by
  induction schedulings with
  | nil => rfl
  | cons s schedulings ih =>
      rw [List.map_cons, List.sum_cons, ih, List.countP_cons, List.filter_cons]
      cases hkind : s.kind with
      | once =>
          simp only [Scheduling.firings, hkind, BEq.rfl, Bool.true_and, decide_eq_true_eq,
            beq_iff_eq, reduceCtorEq, if_false]
          omega
      | repeating =>
          simp only [Scheduling.firings, hkind, Bool.and_eq_true, beq_iff_eq, reduceCtorEq,
            false_and, if_false, Nat.add_zero, if_true, List.map_cons, List.sum_cons]
          exact Nat.add_left_comm _ _ _

/-- The queue counts as many callbacks as the steps do. -/
theorem Kept.firingsBy_eq {steps : List Step} {stage : Stage} {target : Nat} (h : Kept steps stage)
    (hnow : stage.clock.now ≤ target) (htarget : target < Duration.lastInstant) :
    stage.clock.firingsBy target = callbacksDue stage.journal steps stage.clock.now target := by
  have hfirings : ∀ s ∈ live stage.journal steps,
      (s.waitsAt stage.clock.now).firingsBy target = s.firings stage.clock.now target := by
    intro s hs
    have htime := time_le_of_mem (List.mem_filter.mp hs).1
    rw [Nat.zero_add, ← h.now] at htime
    exact s.firingsBy_waitsAt htime hnow htarget
  calc stage.clock.firingsBy target
    _ = (((live stage.journal steps).map (·.waitsAt stage.clock.now)).map
          (·.firingsBy target)).sum := (h.waiting.map _).sum_eq
    _ = ((live stage.journal steps).map (·.firings stage.clock.now target)).sum := by
      rw [List.map_map]
      exact congrArg List.sum (List.map_congr_left hfirings)
    _ = callbacksDue stage.journal steps stage.clock.now target := sum_firings _ _ _

section Advance

variable {steps : List Step} {stage : Stage} (h : Kept steps stage) (settings : Settings) {ms : UInt64}
  (htarget : stage.clock.now + ms.toNat < Duration.lastInstant)

include h htarget

theorem Kept.advance_fails (hlimit : max settings.virtualClock.stepLimit.toNat 1 <
      callbacksDue stage.journal steps stage.clock.now (stage.clock.now + ms.toNat)) :
    ((Step.advance ms).apply settings stage).result =
      .error (.timer (.stepLimitExceeded (max settings.virtualClock.stepLimit.toNat 1))) := by
  rw [← h.firingsBy_eq (Nat.le_add_right _ _) htarget] at hlimit
  rw [Step.apply_advance, (h.drained_spec settings htarget).2 hlimit]
  rfl

theorem Kept.advance_succeeds {count : Nat} (hcount : count =
      callbacksDue stage.journal steps stage.clock.now (stage.clock.now + ms.toNat))
    (hlimit : count ≤ max settings.virtualClock.stepLimit.toNat 1) :
    ((Step.advance ms).apply settings stage).result = .ok { fired := some count } ∧
      ((Step.advance ms).apply settings stage).stage.clock.now = stage.clock.now + ms.toNat := by
  rw [← h.firingsBy_eq (Nat.le_add_right _ _) htarget] at hcount
  subst hcount
  obtain ⟨hran, hpassed⟩ := (h.drained_spec settings htarget).1 hlimit
  rw [Step.apply_advance, Stage.after_clock, hran]
  exact ⟨rfl, hpassed.now⟩

end Advance

namespace Scenario

variable {settings : Settings} {scenario : Scenario} {count index : Nat} {reports : List StepReport}

/-- A run that has come so far agrees with its steps. -/
theorem kept_upTo (hvalid : scenario.validate = .ok ())
    (hreached : (scenario.upTo settings count).result = .ok reports)
    (hnow : (scenario.upTo settings count).stage.clock.now < Duration.lastInstant) :
    Kept (scenario.steps.take count) (scenario.upTo settings count).stage := by
  have hstart : NoFiring [.scenarioStarted scenario.name scenario.steps.length] := fun _ => rfl
  have helapsed := le_now_of_steps? hreached
  rw [Stage.journaled, Stage.fresh, VirtualClock.fresh, Nat.zero_add] at helapsed
  exact (Kept.fresh.journaled hstart).steps?
    (nodup_labels hvalid (List.take_append_drop count scenario.steps).symm)
    (Nat.lt_of_le_of_lt helapsed hnow) hreached

/-- A step that advances fires as many callbacks as come due by the steps
before it, or the run fails there because they are more than the limit. -/
theorem advance_closed_form (settings : Settings) {ms : UInt64}
    (hvalid : scenario.validate = .ok ())
    (hstep : scenario.steps[index]? = some (.advance ms))
    (hreached : (scenario.upTo settings index).result = .ok reports)
    (htarget : (scenario.upTo settings index).stage.clock.now + ms.toNat < Duration.lastInstant) :
    let stage := (scenario.upTo settings index).stage
    let target := stage.clock.now + ms.toNat
    let limit := max settings.virtualClock.stepLimit.toNat 1
    let count := callbacksDue stage.journal (scenario.steps.take index) stage.clock.now target
    stage.clock.now = elapsed (scenario.steps.take index) ∧
    ((scenario.upTo settings (index + 1)).result = .error (.timer (.stepLimitExceeded limit)) ↔
      limit < count) ∧
    (limit < count →
      (scenario.run settings).result = .error (.timer (.stepLimitExceeded limit))) ∧
    (count ≤ limit → ∃ report : StepReport,
      (scenario.upTo settings (index + 1)).result = .ok (reports ++ [report]) ∧
      report.fired = some count ∧ report.now = target ∧
      ∀ whole, (scenario.run settings).result = .ok whole → whole.steps[index]? = some report) := by
  intro stage target limit count
  have hkept : Kept (scenario.steps.take index) stage :=
    kept_upTo hvalid hreached (Nat.lt_of_le_of_lt (Nat.le_add_right _ _) htarget)
  have hfails : limit < count →
      (scenario.upTo settings (index + 1)).result = .error (.timer (.stepLimitExceeded limit)) :=
    fun hlimit => upTo_succ_of_error hstep hreached (hkept.advance_fails settings htarget hlimit)
  have hsucceeds : count ≤ limit → ∃ report : StepReport,
      (scenario.upTo settings (index + 1)).result = .ok (reports ++ [report]) ∧
      report.fired = some count ∧ report.now = target := by
    intro hcount
    obtain ⟨hresult, hnow⟩ := hkept.advance_succeeds settings htarget rfl hcount
    refine ⟨_, upTo_succ_of_ok hstep hreached hresult, rfl, ?_⟩
    rw [Step.report_now]
    exact hnow
  refine ⟨hkept.now, ⟨fun herror => ?_, hfails⟩, fun hlimit => ?_, fun hcount => ?_⟩
  · refine Nat.lt_of_not_le fun hcount => ?_
    obtain ⟨report, hok, -⟩ := hsucceeds hcount
    rw [herror] at hok
    cases hok
  · exact run_of_upTo_error hvalid (hfails hlimit)
  · obtain ⟨report, hok, hfired, hnow⟩ := hsucceeds hcount
    have hindex : index < scenario.steps.length := (List.getElem?_eq_some_iff.mp hstep).1
    exact ⟨report, hok, hfired, hnow, fun whole hrun => getElem?_of_run hvalid hindex hreached hok hrun⟩

/-- Two timers fire by the first advance, and one is cancelled before the
second. -/
def polling : Scenario where
  name := "polling"
  description := none
  steps := [.scheduleOnce "load" 5 none, .scheduleRepeating "poll" 10, .scheduleOnce "late" 35 none,
    .scheduleOnce "gone" 20 none, .advance 15, .cancelOnce "gone", .advance 20]

/-- The second advance of it fires the poll twice and the late timer once, and
comes to a limit of two. -/
theorem polling_fires_three :
    polling.validate = .ok () ∧
    (∃ reports report, (polling.upTo {} 7).result = .ok (reports ++ [report]) ∧
      report.fired = some 3 ∧ report.now = 35) ∧
    (polling.run { virtualClock := { stepLimit := 2 } }).result =
      .error (.timer (.stepLimitExceeded 2)) := by
  have hvalid : polling.validate = .ok () := by decide +kernel
  have hreached : ∀ settings : Settings, (polling.upTo settings 6).result.isOk = true →
      ∃ reports, (polling.upTo settings 6).result = .ok reports := by
    intro settings h
    cases hresult : (polling.upTo settings 6).result with
    | error e =>
        rw [hresult] at h
        cases h
    | ok reports => exact ⟨reports, rfl⟩
  refine ⟨hvalid, ?_, ?_⟩
  · obtain ⟨reports, hok⟩ := hreached {} (by decide +kernel)
    obtain ⟨-, -, -, hfires⟩ :=
      advance_closed_form {} hvalid (by rfl : polling.steps[6]? = some (.advance 20)) hok
        (by decide +kernel)
    obtain ⟨report, hupTo, hfired, hnow, -⟩ := hfires (by decide +kernel)
    exact ⟨reports, report, hupTo, by rw [hfired]; decide +kernel, by rw [hnow]; decide +kernel⟩
  · obtain ⟨reports, hok⟩ := hreached { virtualClock := { stepLimit := 2 } } (by decide +kernel)
    obtain ⟨-, -, hfails, -⟩ :=
      advance_closed_form { virtualClock := { stepLimit := 2 } } hvalid
        (by rfl : polling.steps[6]? = some (.advance 20)) hok (by decide +kernel)
    exact hfails (by decide +kernel)

end Scenario

end PageTimers
