/-
# A check tells what a run will not trip over

A scenario is checked before it is run, and both keep labels: the check those
that were given so far, the run the timers that they stand for.  What the check
lets through is enough for the run.  Every label that a step uses was given by
an earlier step, and by then the run knows it (`labelled_upTo`), so the branch
of an unknown label is never taken.  A step that cancels or schedules cannot
fail either.  What is left is time: only a step that advances can fail, and
`Overruns` lists the two ways in which it does.

A scenario that the check refuses is not begun; the run fails with the same
error, and its journal is empty.
-/
import PageTimers.Application
import PageTimers.Proofs.Scenario.Watching

namespace PageTimers

/-! ## Errors of the script -/

/-- The error is about the script, and not about its timers. -/
def ScenarioError.isFlaw : ScenarioError → Bool
  | unknownLabel _ => true
  | duplicateLabel _ => true
  | empty => true
  | timer _ => false

namespace Scenario

theorem isFlaw_of_validate {scenario : Scenario} {error : ScenarioError}
    (h : scenario.validate = .error error) : error.isFlaw = true := by
  rcases validate_error_iff.mp h with ⟨-, rfl⟩ | ⟨index, hfirst⟩
  · rfl
  · obtain ⟨step, -, hoffends⟩ := hfirst.offends
    cases hoffends <;> rfl

end Scenario

/-! ## Errors of a step -/

/-- How a step that advances by `ms` can fail: more callbacks come due than the
limit allows, or the clock cannot be moved on so far. -/
inductive Overruns (settings : Settings) (stage : Stage) (ms : UInt64) : TimerError → Prop
  | limit : Overruns settings stage ms
      (.stepLimitExceeded (max settings.virtualClock.stepLimit.toNat 1))
  | overflow (h : word64 ≤ stage.clock.now + ms.toNat) :
      Overruns settings stage ms (.clockOverflow stage.clock.now ms.toNat)

/-- A drain fails at its limit only, and names it. -/
theorem VirtualClock.turns_error {α ω : Type} {goal : Goal} {call : α → ω → ω} {left ran : Nat}
    {clock : VirtualClock α} {world : ω} {journal : List (Event TimerId)} {error : TimerError}
    (h : (turns call goal left ran clock world journal).result = .error error) :
    error = .stepLimitExceeded (ran + left) := by
  induction left, ran, clock, world, journal using turns.induct call goal with
  | case1 left ran clock world journal hnext =>
      rw [turns_none goal call left ran world journal hnext] at h
      cases h
  | case2 ran clock world journal timer hnext =>
      rw [turns_limited goal call ran world journal hnext] at h
      cases h
      rfl
  | case3 ran clock world journal timer hnext left ih =>
      rw [turns_turn goal call left ran world journal hnext] at h
      rw [ih h, Nat.add_right_comm, Nat.add_assoc]

section Steps

variable {settings : Settings} {stage : Stage} {ms : UInt64}

theorem Stage.overruns_of_drained {error : TimerError}
    (h : (stage.drained settings ms).result = .error error) : Overruns settings stage ms error := by
  rw [drained, VirtualClock.drain] at h
  by_cases hword : stage.clock.now + ms.toNat < word64
  · rw [VirtualClock.Goal.of_millis hword] at h
    rw [VirtualClock.turns_error h, Nat.zero_add]
    exact .limit
  · rw [VirtualClock.Goal.of, Duration.millis_ofMillis ms.toNat_lt, if_neg hword] at h
    cases h
    exact .overflow (Nat.le_of_not_lt hword)

/-- Where the labels that a step uses are known, it fails only by advancing. -/
theorem Step.overruns_of_apply {step : Step} {error : ScenarioError}
    (hlabels : ∀ label, step.uses? = some label → ∃ id, stage.labelled label = .ok id)
    (h : (step.apply settings stage).result = .error error) :
    ∃ ms cause, step = .advance ms ∧ error = .timer cause ∧ Overruns settings stage ms cause := by
  have hcancel : ∀ kind label, step.uses? = some label →
      (cancelAs kind (stage.labelled label) stage).result ≠ .error error := by
    intro kind label huses hfails
    obtain ⟨id, hid⟩ := hlabels label huses
    rw [hid] at hfails
    cases hfails
  cases step with
  | advance ms =>
      rw [apply_advance] at h
      cases hresult : (stage.drained settings ms).result with
      | ok ran =>
          rw [hresult] at h
          cases h
      | error cause =>
          rw [hresult] at h
          cases h
          exact ⟨ms, cause, rfl, rfl, Stage.overruns_of_drained hresult⟩
  | cancelOnce label => exact absurd h (hcancel .once label rfl)
  | cancelRepeating label => exact absurd h (hcancel .repeating label rfl)
  | _ => cases h

end Steps

/-! ## Runs -/

namespace Scenario

variable {settings : Settings} {scenario : Scenario} {count index : Nat} {step : Step}
  {label : String} {error : ScenarioError} {steps : List Step} {stage : Stage}
  {reports : List StepReport}

/-- Reports are numbered as the steps are. -/
theorem indices_of_steps? (h : (steps? settings index steps stage).result = .ok reports) :
    reports.map (·.index) = List.range' index steps.length := by
  induction steps generalizing index stage reports with
  | nil =>
      cases h
      rfl
  | cons step steps ih =>
      obtain ⟨answer, later, -, hlater, rfl⟩ := steps?_cons_eq_ok h
      rw [List.map_cons, ih hlater, List.length_cons, List.range'_succ]
      rfl

/-- What fails, fails at the first step that does. -/
theorem exists_failing (h : (scenario.upTo settings count).result = .error error) :
    ∃ index step, scenario.steps[index]? = some step ∧
      (scenario.upTo settings index).result.isOk = true ∧
      (step.apply settings (scenario.upTo settings index).stage).result = .error error := by
  induction count with
  | zero => cases h
  | succ count ih =>
      cases hbefore : (scenario.upTo settings count).result with
      | error e =>
          rw [upTo_succ_of_failed hbefore] at h
          cases h
          exact ih hbefore
      | ok reports =>
          cases hstep : scenario.steps[count]? with
          | none =>
              rw [upTo, List.take_add_one, hstep, Option.toList_none, List.append_nil, ← upTo,
                hbefore] at h
              cases h
          | some step =>
              refine ⟨count, step, hstep, by rw [hbefore]; rfl, ?_⟩
              cases happly : (step.apply settings (scenario.upTo settings count).stage).result with
              | ok answer =>
                  rw [upTo_succ_of_ok hstep hbefore happly] at h
                  cases h
              | error e =>
                  rw [upTo_succ_of_error hstep hbefore happly] at h
                  cases h
                  rfl

section Valid

variable (hvalid : scenario.validate = .ok ())

include hvalid

/-- A run knows the labels that its next step uses. -/
theorem labelled_upTo (hstep : scenario.steps[index]? = some step)
    (huses : step.uses? = some label)
    (hreached : (scenario.upTo settings index).result.isOk = true) :
    ∃ id, (scenario.upTo settings index).stage.labelled label = .ok id := by
  obtain ⟨reports, hreports⟩ : ∃ reports, (scenario.upTo settings index).result = .ok reports := by
    cases hresult : (scenario.upTo settings index).result with
    | ok reports => exact ⟨reports, rfl⟩
    | error e =>
        rw [hresult] at hreached
        cases hreached
  obtain ⟨-, -, hgiven⟩ := validate_iff_labelled.mp hvalid
  obtain ⟨giver, hlt, hgives⟩ := hgiven index label (by rw [hstep, Option.bind_some, huses])
  have hlabel := (named_upTo hvalid hreports).labels_iff.mpr
    ⟨giver, gives_take_iff.mpr ⟨hlt, hgives⟩, rfl⟩
  exact ⟨_, by rw [Stage.labelled, hlabel]⟩

theorem run_result : (scenario.run settings).result =
    (scenario.upTo settings scenario.steps.length).result.map fun reports =>
      ⟨scenario.name, reports, (scenario.upTo settings scenario.steps.length).stage.labels⟩ := by
  rw [run, hvalid, upTo, List.take_length]
  simp only [perform]
  split
  · next e he =>
    rw [he]
    rfl
  · next reports hreports =>
    rw [hreports]
    rfl

variable (settings) in
/-- A run reports of every step, or ends at one that advances. -/
theorem run_of_valid :
    (∃ report, (scenario.run settings).result = .ok report ∧
      report.steps.map (·.index) = List.range scenario.steps.length) ∨
    ∃ index ms error, scenario.steps[index]? = some (.advance ms) ∧
      (scenario.upTo settings index).result.isOk = true ∧
      Overruns settings (scenario.upTo settings index).stage ms error ∧
      (scenario.run settings).result = .error (.timer error) := by
  rw [run_result hvalid]
  cases hall : (scenario.upTo settings scenario.steps.length).result with
  | ok reports =>
      refine Or.inl ⟨_, rfl, ?_⟩
      rw [upTo, List.take_length] at hall
      rw [indices_of_steps? hall, List.range_eq_range']
  | error e =>
      obtain ⟨index, step, hstep, hreached, hfails⟩ := exists_failing hall
      obtain ⟨ms, error, rfl, rfl, hoverruns⟩ := Step.overruns_of_apply
        (fun label huses => labelled_upTo hvalid hstep huses hreached) hfails
      exact Or.inr ⟨index, ms, error, hstep, hreached, hoverruns, rfl⟩

end Valid

/-- A run fails with an error of the script exactly if the check does. -/
theorem run_error_iff (hflaw : error.isFlaw = true) :
    (scenario.run settings).result = .error error ↔ scenario.validate = .error error := by
  cases hvalid : scenario.validate with
  | error e =>
      rw [run, hvalid]
      constructor <;> rintro ⟨⟩ <;> rfl
  | ok _ =>
      constructor
      · intro hfails
        rcases run_of_valid settings hvalid with
          ⟨report, hreport, -⟩ | ⟨_, _, cause, -, -, -, hcause⟩
        · rw [hreport] at hfails
          cases hfails
        · rw [hcause] at hfails
          cases hfails
          cases hflaw
      · intro hrefused
        cases hrefused

/-! ## Files -/

/-- What the program says of a run that failed. -/
def failure (scenario : Scenario) (error : ScenarioError) : Failure :=
  ⟨s!"Scenario '{scenario.name}' failed", Failure.scenarioCauses error⟩

/-- An error of the script is told apart from one of the timers. -/
theorem failure_ne_of_timer (hflaw : error.isFlaw = true) (cause : TimerError) :
    scenario.failure (.timer cause) ≠ scenario.failure error := by
  intro h
  have hcauses := congrArg List.length (congrArg Failure.causes h)
  cases error with
  | timer _ => cases hflaw
  | _ => cases hcauses

section Files

variable {i : Invocation} {file : String}

theorem perform_checkScenario (hread : Command.readScenario i.surroundings file = .ok scenario) :
    (∃ told, (Command.perform i settings (.checkScenario file)).2 = .ok told) ↔
      scenario.validate = .ok () := by
  rw [Command.perform, Command.scenarioCheck, hread]
  cases hvalid : scenario.validate with
  | ok _ => simp [check, hvalid, bind, Except.bind, pure, Except.pure]
  | error e => simp [check, hvalid, bind, Except.bind]

theorem perform_runScenario (hread : Command.readScenario i.surroundings file = .ok scenario) :
    (Command.perform i settings (.runScenario file)).2 =
      ((scenario.run settings).result.mapError scenario.failure).map fun report =>
        ⟨report.toJson i.stamp, report.text i.stamp⟩ := by
  rw [Command.perform, Command.scenarioRun, hread]
  cases hresult : (scenario.run settings).result with
  | ok report => simp [hresult, Except.map, Except.mapError]
  | error e => simp [hresult, Except.map, Except.mapError, failure]

/-- The check accepts what a run does not refuse for the script's sake. -/
theorem accepts_iff (hread : Command.readScenario i.surroundings file = .ok scenario) :
    (∃ told, (Command.perform i settings (.checkScenario file)).2 = .ok told) ↔
      ∀ flaw : ScenarioError, flaw.isFlaw = true →
        (Command.perform i settings (.runScenario file)).2 ≠ .error (scenario.failure flaw) := by
  rw [perform_checkScenario hread, perform_runScenario hread]
  constructor
  · intro hvalid flaw hflaw
    rcases run_of_valid settings hvalid with
      ⟨report, hreport, -⟩ | ⟨_, _, cause, -, -, -, hcause⟩
    · rw [hreport]
      exact nofun
    · rw [hcause]
      exact fun h => failure_ne_of_timer hflaw cause (Except.error.inj h)
  · intro hruns
    cases hvalid : scenario.validate with
    | ok _ => rfl
    | error flaw =>
        have hflaw := isFlaw_of_validate hvalid
        refine absurd ?_ (hruns flaw hflaw)
        rw [(run_error_iff hflaw).mpr hvalid]
        rfl

end Files

/-- **Checking and running agree.**  A run fails with an error of the script
exactly if the check finds it, and then nothing was begun.  A run of a scenario
that makes sense knows every label that it comes to use, and it

* reports of every step, in order; or
* ends at a step that advances, with one of the two errors of time.

So of a file that holds a scenario, the check command accepts it exactly if the
run command does not fail with an error of the script; of any other file, both
say the same. -/
theorem run_agrees_with_check (settings : Settings) (scenario : Scenario) :
    (∀ flaw : ScenarioError, flaw.isFlaw = true →
      ((scenario.run settings).result = .error flaw ↔ scenario.validate = .error flaw)) ∧
    (∀ error, scenario.validate = .error error →
      error.isFlaw = true ∧ scenario.run settings = ⟨[], .error error⟩) ∧
    (scenario.validate = .ok () →
      (∀ index step label, scenario.steps[index]? = some step → step.uses? = some label →
        (scenario.upTo settings index).result.isOk = true →
        ∃ id, (scenario.upTo settings index).stage.labelled label = .ok id) ∧
      ((∃ report, (scenario.run settings).result = .ok report ∧
          report.steps.map (·.index) = List.range scenario.steps.length) ∨
        ∃ index ms error, scenario.steps[index]? = some (.advance ms) ∧
          (scenario.upTo settings index).result.isOk = true ∧
          Overruns settings (scenario.upTo settings index).stage ms error ∧
          (scenario.run settings).result = .error (.timer error))) ∧
    ∀ (i : Invocation) (file : String),
      (Command.readScenario i.surroundings file = .ok scenario →
        ((∃ told, (Command.perform i settings (.checkScenario file)).2 = .ok told) ↔
          ∀ flaw : ScenarioError, flaw.isFlaw = true →
            (Command.perform i settings (.runScenario file)).2 ≠ .error (scenario.failure flaw))) ∧
      ∀ failure, Command.readScenario i.surroundings file = .error failure →
        (Command.perform i settings (.checkScenario file)).2 = .error failure ∧
          (Command.perform i settings (.runScenario file)).2 = .error failure := by
  refine ⟨fun flaw hflaw => run_error_iff hflaw, fun error herror => ?_, fun hvalid => ?_,
    fun i file => ⟨accepts_iff, fun failure hread => ?_⟩⟩
  · refine ⟨isFlaw_of_validate herror, ?_⟩
    rw [run, herror]
  · refine ⟨fun index step label hstep huses hreached => ?_, run_of_valid settings hvalid⟩
    exact labelled_upTo hvalid hstep huses hreached
  · rw [Command.perform, Command.perform, Command.scenarioCheck, Command.scenarioRun, hread]
    exact ⟨rfl, rfl⟩

end Scenario

end PageTimers
