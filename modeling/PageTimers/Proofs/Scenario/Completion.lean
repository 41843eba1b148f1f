/-
# When a scenario reports completion

The monitor asks its probes whenever a step is reported, and which probes these
are was settled when it was installed: always the reporter's, and the one for
outstanding timers if settings ask for it and the interceptor was there by then
(`monitorBy`).  An interceptor that comes later changes nothing.

The probes look at the page as it stands.  What the reporter's global holds is
what was last written to it (`Proofs/Scenario/Writes`), and what is outstanding
the steps tell as well (`Proofs/Scenario/Watching`); so they tell whether a
scenario is reported to be complete.
-/
import PageTimers.Proofs.Page.Monitor
import PageTimers.Proofs.Scenario.Watching
import PageTimers.Proofs.Scenario.Writes

namespace PageTimers

/-! ## By the steps -/

def Step.installsMonitor : Step → Bool
  | installMonitor => true
  | _ => false

theorem Step.installsMonitor_iff {step : Step} :
    step.installsMonitor = true ↔ step = .installMonitor := by
  cases step <;> simp [installsMonitor]

/-- The probes that settings ask for, where timers are tracked or not. -/
def CompletionSettings.probes (settings : CompletionSettings) (tracked : Bool) : List Probe :=
  .reporter settings.reporterGlobal settings.finishedField ::
    if settings.includeOutstanding && tracked then [.outstanding] else []

/-- The probes in force: those that the first installation settles. -/
def monitorBy (settings : CompletionSettings) : (tracked : Bool) → List Step → Option (List Probe)
  | _, [] => none
  | tracked, step :: rest =>
    if step.installsMonitor then some (settings.probes tracked)
    else monitorBy settings (tracked || step.installsInterceptor) rest

section MonitorBy

variable {settings : CompletionSettings} {tracked : Bool} {step : Step} {steps : List Step}

theorem monitorBy_cons_of_installs (h : step.installsMonitor = true) :
    monitorBy settings tracked (step :: steps) = some (settings.probes tracked) := if_pos h

theorem monitorBy_cons_of_not (h : step.installsMonitor = false) :
    monitorBy settings tracked (step :: steps) =
      monitorBy settings (tracked || step.installsInterceptor) steps := by
  rw [monitorBy, h]
  rfl

theorem monitorBy_append (tracked : Bool) (steps more : List Step) :
    monitorBy settings tracked (steps ++ more) = (monitorBy settings tracked steps).or
      (monitorBy settings (tracked || steps.any Step.installsInterceptor) more) := by
  induction steps generalizing tracked with
  | nil => rw [List.any_nil, Bool.or_false]; rfl
  | cons step steps ih =>
      rw [List.cons_append]
      cases hstep : step.installsMonitor with
      | true => rw [monitorBy_cons_of_installs hstep, monitorBy_cons_of_installs hstep]; rfl
      | false =>
          rw [monitorBy_cons_of_not hstep, monitorBy_cons_of_not hstep, ih, List.any_cons,
            Bool.or_assoc]

theorem monitorBy_eq_none_iff : monitorBy settings tracked steps = none ↔
    ∀ step ∈ steps, step ≠ .installMonitor := by
  induction steps generalizing tracked with
  | nil => simp [monitorBy]
  | cons step steps ih =>
      rw [List.forall_mem_cons, ne_eq, ← Step.installsMonitor_iff]
      cases hstep : step.installsMonitor with
      | true => simp [monitorBy_cons_of_installs hstep]
      | false => simp [monitorBy_cons_of_not hstep, ih]

theorem monitorBy_of_first {monitor : Nat} (hmonitor : steps[monitor]? = some .installMonitor)
    (hfirst : ∀ index < monitor, steps[index]? ≠ some .installMonitor) :
    monitorBy settings tracked steps = some (settings.probes
      (tracked || (steps.take monitor).any Step.installsInterceptor)) := by
  induction steps generalizing tracked monitor with
  | nil => cases hmonitor
  | cons step steps ih =>
      cases monitor with
      | zero =>
          have hstep : step.installsMonitor = true :=
            Step.installsMonitor_iff.mpr (Option.some.inj hmonitor)
          rw [monitorBy_cons_of_installs hstep, List.take_zero, List.any_nil, Bool.or_false]
      | succ monitor =>
          have hstep : step.installsMonitor = false := by
            rw [← Bool.not_eq_true, Step.installsMonitor_iff]
            rintro rfl
            exact hfirst 0 (Nat.succ_pos _) rfl
          rw [monitorBy_cons_of_not hstep, ih hmonitor
            fun index hlt => hfirst (index + 1) (Nat.succ_lt_succ hlt), List.take_succ_cons,
            List.any_cons, Bool.or_assoc]

theorem exists_probes_iff {page : Page TimerId} :
    (∃ probe ∈ settings.probes tracked, page.answer probe = true) ↔
      page.answer (.reporter settings.reporterGlobal settings.finishedField) = true ∨
        settings.includeOutstanding = true ∧ tracked = true ∧ page.answer .outstanding = true := by
  rw [CompletionSettings.probes]
  cases settings.includeOutstanding <;> cases tracked <;> simp

theorem any_take_installs_iff {monitor : Nat} :
    (steps.take monitor).any Step.installsInterceptor = true ↔
      ∃ install < monitor, steps[install]? = some .installInterceptor := by
  rw [List.any_eq_true, ← mem_take_iff]
  constructor
  · rintro ⟨step, hstep, hinstalls⟩
    rwa [Step.installsInterceptor_iff.mp hinstalls] at hstep
  · exact fun hstep => ⟨.installInterceptor, hstep, rfl⟩

/-- Where a step occurs, it occurs for the first time. -/
theorem exists_first {index : Nat} (h : steps[index]? = some step) :
    ∃ first ≤ index, steps[first]? = some step ∧ ∀ before < first, steps[before]? ≠ some step := by
  classical
  have hex : ∃ index, steps[index]? = some step := ⟨index, h⟩
  exact ⟨Nat.find hex, Nat.find_min' hex h, Nat.find_spec hex, fun _ => Nat.find_min hex⟩

end MonitorBy

/-! ## By the stage -/

theorem Watches.isIntercepted_eq {steps : List Step} {stage : Stage} (h : Watches steps stage) :
    stage.page.isIntercepted = steps.any Step.installsInterceptor := by
  have hnone : watched 0 0 steps = none ↔ steps.any Step.installsInterceptor = false := by
    rw [watched_eq_none_iff, List.any_eq_false]
    simp only [Step.installsInterceptor_iff, ne_eq]
  rw [Page.isIntercepted]
  rcases h.none_or_some with ⟨hwatched, hpage⟩ | ⟨timers, set, hwatched, hpage, -⟩
  · rw [hpage, hnone.mp hwatched]
    rfl
  · rw [hpage]
    cases hany : steps.any Step.installsInterceptor with
    | true => rfl
    | false =>
        rw [hnone.mpr hany] at hwatched
        cases hwatched

/-- The monitor of a stage is the one that the steps settle. -/
structure Monitors (settings : CompletionSettings) (steps : List Step) (stage : Stage) : Prop where
  watches : Watches steps stage
  monitor : stage.page.monitor = monitorBy settings false steps

namespace Monitors

variable {settings : Settings} {steps : List Step} {step : Step} {stage stage' : Stage}

theorem apply (h : Monitors settings.completion steps stage)
    (hnodup : ((schedulings 0 0 (steps ++ [step])).map (·.label)).Nodup)
    (happlied : Applied settings stage step stage') :
    Monitors settings.completion (steps ++ [step]) stage' := by
  refine ⟨h.watches.apply hnodup happlied, ?_⟩
  have hkeep : step.installsMonitor = false → stage'.page.monitor = stage.page.monitor →
      stage'.page.monitor = monitorBy settings.completion false (steps ++ [step]) := by
    intro hstep hmonitor
    rw [hmonitor, h.monitor, monitorBy_append, monitorBy_cons_of_not hstep, monitorBy]
    exact (Option.or_none).symm
  cases happlied with
  | monitor =>
      have hprobes : stage.page.configuredProbes settings.completion =
          settings.completion.probes stage.page.isIntercepted := rfl
      rw [Stage.turnPage_page, Page.installConfigured_page, monitorBy_append,
        monitorBy_cons_of_installs rfl, ← h.monitor, hprobes, h.watches.isIntercepted_eq,
        Bool.false_or]
      cases stage.page.monitor <;> rfl
  | install =>
      refine hkeep rfl ?_
      rw [Stage.turnPage_page, Page.installInterceptor_page]
  | set name value => exact hkeep rfl rfl
  | schedule kind label delay hschedules _ =>
      refine hkeep (by cases step <;> first | rfl | cases hschedules) ?_
      rw [Stage.schedule_page, Page.noteScheduled_page]
  | cancel kind id htarget =>
      refine hkeep (by cases step <;> first | rfl | cases htarget) ?_
      rw [Stage.cancel_page, Page.noteCleared_page]
  | advance ms count hresult =>
      obtain ⟨globals, hpage⟩ := stage.drained_page settings ms
      refine hkeep rfl ?_
      rw [Stage.after_page, hpage]

end Monitors

/-! ## Along a run -/

namespace Scenario

variable {settings : Settings} {scenario : Scenario} {index : Nat} {report : StepReport}

namespace Reports

section Stages

variable (h : scenario.Reports settings index report) {count : Nat} (hcount : count ≤ index + 1)

include h hcount

theorem monitors : Monitors settings.completion (scenario.steps.take count)
    (scenario.upTo settings count).stage := by
  obtain ⟨before, hbefore⟩ := h.reached_of_le hcount
  refine upTo_applied (I := Monitors settings.completion) h.valid ?_ ?_ hbefore
  · exact ⟨Watches.fresh.congr rfl rfl rfl, rfl⟩
  · intro steps step stage stage' index answer hnodup h' happlied
    obtain ⟨hwatches, hmonitor⟩ := h'.apply hnodup happlied
    exact ⟨hwatches.congr rfl rfl rfl, hmonitor⟩

theorem defers : Defers (scenario.steps.take count) (scenario.upTo settings count).stage := by
  obtain ⟨before, hbefore⟩ := h.reached_of_le hcount
  have hstart : NoFiring [.scenarioStarted scenario.name scenario.steps.length] := fun _ => rfl
  refine upTo_applied (I := Defers) h.valid ?_ ?_ hbefore
  · exact Defers.fresh.congr rfl rfl rfl (hstart.firedOnce _)
  · intro steps step stage stage' index answer hnodup h' happlied
    exact (h'.apply hnodup happlied).congr rfl rfl rfl
      ((Step.noFiring_reportEvents _ _).firedOnce _)

end Stages

/-- The one-shot timers that fire in an advance are those that come due by the
steps before it, in their order. -/
theorem firedOnce_advance (h : scenario.Reports settings index report) {place : Nat} {ms : UInt64}
    (hplace : place ≤ index) (hstep : scenario.steps[place]? = some (.advance ms)) :
    firedOnce (scenario.upTo settings (place + 1)).stage.journal =
      ((comingDue (scenario.steps.take place) ms.toNat).map fun d => ⟨d.timer.id⟩).reverse ++
        firedOnce (scenario.upTo settings place).stage.journal := by
  rw [(h.defers (Nat.succ_le_succ hplace)).fired, (h.defers (Nat.le_succ_of_le hplace)).fired,
    List.take_add_one, hstep, Option.toList_some, onceFirings_append, List.map_append,
    List.reverse_append]
  rfl

/-- The monitor asks what the first installation has settled. -/
theorem monitor_eq_some_iff (h : scenario.Reports settings index report) {probes : List Probe} :
    (scenario.upTo settings (index + 1)).stage.page.monitor = some probes ↔
      ∃ monitor ≤ index, scenario.steps[monitor]? = some .installMonitor ∧
        (∀ before < monitor, scenario.steps[before]? ≠ some .installMonitor) ∧
        probes = settings.completion.probes
          ((scenario.steps.take monitor).any Step.installsInterceptor) := by
  have htake : ∀ place ≤ index, (scenario.steps.take (index + 1))[place]? = scenario.steps[place]? :=
    fun place hplace => List.getElem?_take_of_lt (Nat.lt_succ_of_le hplace)
  have hfirst : ∀ monitor ≤ index, scenario.steps[monitor]? = some .installMonitor →
      (∀ before < monitor, scenario.steps[before]? ≠ some .installMonitor) →
      (scenario.upTo settings (index + 1)).stage.page.monitor = some (settings.completion.probes
        ((scenario.steps.take monitor).any Step.installsInterceptor)) := by
    intro monitor hle hat hfirst
    rw [(h.monitors (Nat.le_refl _)).monitor, monitorBy_of_first ((htake monitor hle).trans hat)
      fun before hlt => by rw [htake before (by omega)]; exact hfirst before hlt, List.take_take,
      Nat.min_eq_left (Nat.le_succ_of_le hle), Bool.false_or]
  constructor
  · intro hprobes
    have hsome : ∃ step ∈ scenario.steps.take (index + 1), step = .installMonitor := by
      by_contra hsome
      have hnone : ∀ step ∈ scenario.steps.take (index + 1), step ≠ .installMonitor :=
        fun step hmem hstep => hsome ⟨step, hmem, hstep⟩
      rw [(h.monitors (Nat.le_refl _)).monitor, monitorBy_eq_none_iff.mpr hnone] at hprobes
      cases hprobes
    obtain ⟨_, hmem, rfl⟩ := hsome
    obtain ⟨place, hlt, hat⟩ := mem_take_iff.mp hmem
    obtain ⟨monitor, hle, hat, hnot⟩ := exists_first hat
    have hmonitor : monitor ≤ index := Nat.le_trans hle (Nat.le_of_lt_succ hlt)
    rw [hfirst monitor hmonitor hat hnot, Option.some.injEq] at hprobes
    exact ⟨monitor, hmonitor, hat, hnot, hprobes.symm⟩
  · rintro ⟨monitor, hle, hat, hnot, rfl⟩
    exact hfirst monitor hle hat hnot

/-- What the probes answer that settings ask for, where timers were tracked or
not when they were put in force. -/
theorem exists_answer_iff (h : scenario.Reports settings index report) (tracked : Bool) :
    (∃ probe ∈ settings.completion.probes tracked,
      (scenario.upTo settings (index + 1)).stage.page.answer probe = true) ↔
    (∃ fields value, lastWrite? settings.completion.reporterGlobal
          (scenario.steps.take (index + 1)) = some (.object fields) ∧
        Fields.get? settings.completion.finishedField fields = some value ∧ ¬ value.IsFalsy) ∨
      settings.completion.includeOutstanding = true ∧ tracked = true ∧
        report.outstanding = some [] := by
  rw [exists_probes_iff, Page.answer_reporter_iff, Page.answer_outstanding_iff, h.stands.2.1,
    (h.defers (Nat.le_refl _)).globals, Globals.get?_foldl_assign]
  rfl

/-- A step is reported to be complete by what the steps so far have written,
installed and cancelled. -/
theorem completed_iff (h : scenario.Reports settings index report) :
    report.completed = true ↔ ∃ monitor ≤ index,
      scenario.steps[monitor]? = some .installMonitor ∧
      (∀ before < monitor, scenario.steps[before]? ≠ some .installMonitor) ∧
      ((∃ fields value, lastWrite? settings.completion.reporterGlobal
            (scenario.steps.take (index + 1)) = some (.object fields) ∧
          Fields.get? settings.completion.finishedField fields = some value ∧
          ¬ value.IsFalsy) ∨
        settings.completion.includeOutstanding = true ∧
          (∃ install < monitor, scenario.steps[install]? = some .installInterceptor) ∧
          report.outstanding = some []) := by
  rw [h.stands.2.2, Page.completed_iff]
  constructor
  · rintro ⟨probes, hprobes, hyes⟩
    obtain ⟨monitor, hle, hat, hnot, rfl⟩ := h.monitor_eq_some_iff.mp hprobes
    rw [h.exists_answer_iff, any_take_installs_iff] at hyes
    exact ⟨monitor, hle, hat, hnot, hyes⟩
  · rintro ⟨monitor, hle, hat, hnot, hyes⟩
    rw [← any_take_installs_iff, ← h.exists_answer_iff] at hyes
    exact ⟨_, h.monitor_eq_some_iff.mpr ⟨monitor, hle, hat, hnot, rfl⟩, hyes⟩

end Reports

/-- Whether a run that has ended well was complete in the end. -/
theorem completed_of_run {whole : ScenarioReport} (hrun : (scenario.run settings).result = .ok whole) :
    whole.completed = true ↔ ∃ monitor : Nat, scenario.steps[monitor]? = some .installMonitor ∧
      (∀ before < monitor, scenario.steps[before]? ≠ some .installMonitor) ∧
      ((∃ fields value, lastWrite? settings.completion.reporterGlobal scenario.steps =
            some (.object fields) ∧
          Fields.get? settings.completion.finishedField fields = some value ∧
          ¬ value.IsFalsy) ∨
        settings.completion.includeOutstanding = true ∧
          (∃ install < monitor, scenario.steps[install]? = some .installInterceptor) ∧
          outstandingBy scenario.steps = some []) := by
  obtain ⟨last, report, hlast, hreport, h⟩ := exists_last hrun
  have hall : scenario.steps.take (last + 1) = scenario.steps := by rw [hlast, List.take_length]
  have hcompleted := h.completed_iff
  rw [h.outstanding_eq, hall] at hcompleted
  rw [ScenarioReport.completed, hreport, hcompleted]
  refine exists_congr fun monitor => and_iff_right_of_imp fun hmonitor => ?_
  have hlt : monitor < scenario.steps.length := (List.getElem?_eq_some_iff.mp hmonitor.1).1
  rw [← hlast] at hlt
  exact Nat.le_of_lt_succ hlt

/-- **Completion is determined by the last write to the reporter.**  For each
step that a run comes to report, the page is complete exactly if the monitor was
installed by then and

* what was last written to the reporter's global is an object whose field for
  the outcome holds a value that is not falsy; or
* settings ask for outstanding timers too, the interceptor was installed before
  the first monitor was, and no timer is outstanding.

Writes are those of the steps that set globals and, in each advance, those of
the one-shot timers that fire in it, by due time and then by number; and by the
journal of the run they are the ones that do. -/
theorem completed_from_writes (h : scenario.Reports settings index report) :
    (report.completed = true ↔ ∃ monitor ≤ index,
      scenario.steps[monitor]? = some .installMonitor ∧
      (∀ before < monitor, scenario.steps[before]? ≠ some .installMonitor) ∧
      ((∃ fields value, lastWrite? settings.completion.reporterGlobal
            (scenario.steps.take (index + 1)) = some (.object fields) ∧
          Fields.get? settings.completion.finishedField fields = some value ∧
          ¬ value.IsFalsy) ∨
        settings.completion.includeOutstanding = true ∧
          (∃ install < monitor, scenario.steps[install]? = some .installInterceptor) ∧
          report.outstanding = some [])) ∧
    ∀ place ms, place ≤ index → scenario.steps[place]? = some (.advance ms) →
      firedOnce (scenario.upTo settings (place + 1)).stage.journal =
        ((comingDue (scenario.steps.take place) ms.toNat).map fun d => ⟨d.timer.id⟩).reverse ++
          firedOnce (scenario.upTo settings place).stage.journal := by
  exact ⟨h.completed_iff, fun place ms hplace hstep => h.firedOnce_advance hplace hstep⟩

/-- Two timers come due together, and the later of them says that the tests are
done. -/
def lateSuccess : Scenario where
  name := "late success"
  description := none
  steps := [.installMonitor,
    .scheduleOnce "begin" 10 (some ⟨"reporter", .object [("finished", .bool false)]⟩),
    .scheduleOnce "end" 10 (some ⟨"reporter", .object [("finished", .bool true)]⟩),
    .advance 10]

theorem lateSuccess_completes : ∃ report, lateSuccess.Reports {} 3 report ∧ report.completed = true ∧
    firedOnce (lateSuccess.upTo {} 4).stage.journal = [⟨2⟩, ⟨1⟩] := by
  obtain ⟨report, h⟩ : ∃ report, lateSuccess.Reports {} 3 report :=
    exists_reports (by decide +kernel) (by decide) (by decide +kernel)
  obtain ⟨hcompleted, hfired⟩ := completed_from_writes h
  have hdue : comingDue (lateSuccess.steps.take 3) 10 = deferrals (lateSuccess.steps.take 3) := by
    rw [comingDue, List.mergeSort_of_pairwise (by decide +kernel)]
    rfl
  have hwrites : writes (lateSuccess.steps.take 4) =
      (comingDue (lateSuccess.steps.take 3) 10).filterMap (·.sets) ++ [] := rfl
  have hlast : lastWrite? "reporter" (lateSuccess.steps.take 4) =
      some (.object [("finished", .bool true)]) := by
    rw [lastWrite?, hwrites, hdue]
    rfl
  refine ⟨report, h, hcompleted.mpr ?_, ?_⟩
  · refine ⟨0, by decide, rfl, fun before hlt => absurd hlt (Nat.not_lt_zero _), Or.inl ?_⟩
    exact ⟨_, _, hlast, rfl, fun hfalsy => by cases hfalsy⟩
  · have hten : (10 : UInt64).toNat = 10 := rfl
    rw [hfired 3 10 (by decide) rfl, hten, hdue]
    rfl

end Scenario

end PageTimers
