/-
# What a run comes to report

A run reports of one step after the other until one of them fails, and its
reports reach the reader only if none does.  `Scenario.Reports` speaks of a
single report, whatever became of the run later; where the run has ended well
these are its reports (`reports_iff_of_run`).  A report is made of the stage to
which its step has led (`Reports.shows`).

What a run keeps is shown one step at a time.  `upTo_invariant` takes a relation
between the steps so far and the stage they have led to, and carries it to
every stage at which a step is reported.
-/
import PageTimers.Proofs.Scenario.ClosedForm

namespace PageTimers

namespace Scenario

variable {settings : Settings} {scenario : Scenario} {count index : Nat} {report : StepReport}
  {reports : List StepReport} {whole : ScenarioReport}

/-- The scenario makes sense, and a run of it comes to report this of the step
at `index`. -/
structure Reports (settings : Settings) (scenario : Scenario) (index : Nat) (report : StepReport) :
    Prop where
  valid : scenario.validate = .ok ()
  reported : ∃ reports, (scenario.upTo settings (index + 1)).result = .ok reports ∧
    reports[index]? = some report

/-- What goes well up to some step has gone well up to any earlier one. -/
theorem upTo_of_succ (h : (scenario.upTo settings (count + 1)).result = .ok reports) :
    ∃ before, (scenario.upTo settings count).result = .ok before := by
  cases hbefore : (scenario.upTo settings count).result with
  | ok before => exact ⟨before, rfl⟩
  | error e =>
      rw [upTo_succ_of_failed hbefore] at h
      cases h

theorem upTo_of_le {fewer : Nat} (hle : fewer ≤ count)
    (h : (scenario.upTo settings count).result = .ok reports) :
    ∃ before, (scenario.upTo settings fewer).result = .ok before := by
  induction hle generalizing reports with
  | refl => exact ⟨reports, h⟩
  | step _ ih =>
      obtain ⟨before, hbefore⟩ := upTo_of_succ h
      exact ih hbefore

/-- Every step that goes well is reported. -/
theorem exists_reports (hvalid : scenario.validate = .ok ()) (hindex : index < scenario.steps.length)
    (h : (scenario.upTo settings (index + 1)).result.isOk = true) :
    ∃ report, scenario.Reports settings index report := by
  cases hreports : (scenario.upTo settings (index + 1)).result with
  | error e =>
      rw [hreports] at h
      cases h
  | ok reports =>
      have hlength : reports.length = index + 1 := by
        rw [length_of_steps? hreports, List.length_take_of_le hindex]
      exact ⟨_, hvalid, reports, hreports, List.getElem?_eq_getElem (by omega)⟩

/-- A run keeps what every step keeps. -/
theorem upTo_invariant {I : List Step → Stage → Prop}
    (hstart : I [] (Stage.fresh.journaled [.scenarioStarted scenario.name scenario.steps.length]))
    (hstep : ∀ index step answer, scenario.steps[index]? = some step →
      I (scenario.steps.take index) (scenario.upTo settings index).stage →
      (step.apply settings (scenario.upTo settings index).stage).result = .ok answer →
      I (scenario.steps.take index ++ [step])
        (reported index step answer (step.apply settings (scenario.upTo settings index).stage).stage))
    (h : (scenario.upTo settings count).result = .ok reports) :
    I (scenario.steps.take count) (scenario.upTo settings count).stage := by
  induction count generalizing reports with
  | zero => exact hstart
  | succ count ih =>
      obtain ⟨before, hbefore⟩ := upTo_of_succ h
      have hcount := ih hbefore
      cases hat : scenario.steps[count]? with
      | none =>
          have htake : scenario.steps.take (count + 1) = scenario.steps.take count := by
            rw [List.take_add_one, hat, Option.toList_none, List.append_nil]
          rw [upTo, htake]
          exact hcount
      | some step =>
          rw [upTo_succ hat hbefore, Staged.prepend_eq_ok] at h
          obtain ⟨later, hlater, -⟩ := h
          obtain ⟨answer, -, hanswer, -, -⟩ := steps?_cons_eq_ok hlater
          rw [List.take_add_one, hat, Option.toList_some, stage_upTo_succ hat hbefore hanswer]
          exact hstep count step answer hat hcount hanswer

namespace Reports

/-- The step went well, and the report was made of the stage to which it led. -/
theorem shows (h : scenario.Reports settings index report) : ∃ step answer,
    scenario.steps[index]? = some step ∧
    (step.apply settings (scenario.upTo settings index).stage).result = .ok answer ∧
    report = step.report index answer
      (step.apply settings (scenario.upTo settings index).stage).stage ∧
    (scenario.upTo settings (index + 1)).stage = Scenario.reported index step answer
      (step.apply settings (scenario.upTo settings index).stage).stage := by
  obtain ⟨-, reports, hreports, hreport⟩ := h
  have hlength := length_of_steps? hreports
  have hindex : index < scenario.steps.length := by
    have hlt : index < reports.length := (List.getElem?_eq_some_iff.mp hreport).1
    rw [hlength, List.length_take] at hlt
    omega
  obtain ⟨step, hstep⟩ : ∃ step, scenario.steps[index]? = some step :=
    ⟨_, List.getElem?_eq_getElem hindex⟩
  obtain ⟨before, hbefore⟩ := upTo_of_succ hreports
  rw [upTo_succ hstep hbefore, Staged.prepend_eq_ok] at hreports
  obtain ⟨later, hlater, rfl⟩ := hreports
  obtain ⟨answer, rest, hanswer, hrest, rfl⟩ := steps?_cons_eq_ok hlater
  have hbeforeLength : before.length = index := by
    rw [length_of_steps? hbefore, List.length_take_of_le (Nat.le_of_lt hindex)]
  rw [List.getElem?_append_right (Nat.le_of_eq hbeforeLength), hbeforeLength, Nat.sub_self,
    List.getElem?_cons_zero, Option.some.injEq] at hreport
  exact ⟨step, answer, hstep, hanswer, hreport.symm, stage_upTo_succ hstep hbefore hanswer⟩

/-- The report tells how the page stands after the step. -/
theorem stands (h : scenario.Reports settings index report) :
    index < scenario.steps.length ∧
    report.outstanding = (scenario.upTo settings (index + 1)).stage.page.outstanding.map (·.sorted) ∧
    report.completed = (scenario.upTo settings (index + 1)).stage.page.completed := by
  obtain ⟨step, answer, hstep, -, hreport, hstage⟩ := h.shows
  rw [hreport, hstage]
  exact ⟨(List.getElem?_eq_some_iff.mp hstep).1, rfl, rfl⟩

/-- And it tells how many timers wait then. -/
theorem pending_eq (h : scenario.Reports settings index report) :
    report.pending = (scenario.upTo settings (index + 1)).stage.clock.queue.length := by
  obtain ⟨step, answer, -, -, hreport, hstage⟩ := h.shows
  rw [hreport, hstage]
  rfl

/-- What was reported was reached. -/
theorem reached (h : scenario.Reports settings index report) :
    ∃ reports, (scenario.upTo settings (index + 1)).result = .ok reports :=
  h.reported.imp fun _ h => h.1

/-- So were the stages before. -/
theorem reached_of_le (h : scenario.Reports settings index report) (hcount : count ≤ index + 1) :
    ∃ before, (scenario.upTo settings count).result = .ok before := by
  obtain ⟨reports, hreports⟩ := h.reached
  exact upTo_of_le hcount hreports

/-- A run reports of the steps one after the other. -/
theorem earlier (h : scenario.Reports settings index report) {before : Nat} (hbefore : before ≤ index) :
    ∃ previous, scenario.Reports settings before previous := by
  obtain ⟨reports, hreports⟩ := h.reached_of_le (Nat.succ_le_succ hbefore)
  refine exists_reports h.valid (Nat.lt_of_le_of_lt hbefore h.stands.1) ?_
  rw [hreports]
  rfl

end Reports

section Whole

variable (hrun : (scenario.run settings).result = .ok whole)

include hrun

theorem valid_of_run : scenario.validate = .ok () := by
  rw [run] at hrun
  cases hvalid : scenario.validate with
  | error e =>
      rw [hvalid] at hrun
      cases hrun
  | ok _ => rfl

theorem upTo_of_run (count : Nat) : ∃ reports, (scenario.upTo settings count).result = .ok reports := by
  cases h : (scenario.upTo settings count).result with
  | ok reports => exact ⟨reports, rfl⟩
  | error e =>
      have hfails := run_of_upTo_error (valid_of_run hrun) h
      rw [hrun] at hfails
      cases hfails

/-- A run that has ended well has taken all steps. -/
theorem run_of_ok : (scenario.upTo settings scenario.steps.length).result = .ok whole.steps ∧
    whole.labels = (scenario.upTo settings scenario.steps.length).stage.labels := by
  have hvalid := valid_of_run hrun
  rw [run, hvalid] at hrun
  rw [upTo, List.take_length]
  simp only [perform] at hrun
  split at hrun
  · cases hrun
  · next steps hsteps =>
    cases hrun
    exact ⟨hsteps, rfl⟩

/-- It reports of each of them. -/
theorem length_of_run : whole.steps.length = scenario.steps.length := by
  rw [length_of_steps? (run_of_ok hrun).1, List.take_length]

/-- Where a run has ended well, what it came to report is what its reports
say. -/
theorem reports_iff_of_run : scenario.Reports settings index report ↔
    whole.steps[index]? = some report := by
  have hvalid := valid_of_run hrun
  obtain ⟨reports, hreports⟩ := upTo_of_run hrun (index + 1)
  obtain ⟨later, hlater⟩ := isPrefix_of_run hvalid hreports hrun
  have hlength := length_of_steps? hreports
  rw [List.length_take] at hlength
  constructor
  · rintro ⟨-, reports', hreports', hreport⟩
    rw [hreports] at hreports'
    cases hreports'
    have hlt : index < reports.length := (List.getElem?_eq_some_iff.mp hreport).1
    rw [← hlater, List.getElem?_append_left hlt]
    exact hreport
  · intro hreport
    have hlt : index < whole.steps.length := (List.getElem?_eq_some_iff.mp hreport).1
    rw [length_of_run hrun] at hlt
    refine ⟨hvalid, reports, hreports, ?_⟩
    rw [← hlater, List.getElem?_append_left (by omega)] at hreport
    exact hreport

/-- The last of them is of the last step. -/
theorem exists_last : ∃ last report, last + 1 = scenario.steps.length ∧
    whole.steps.getLast? = some report ∧ scenario.Reports settings last report := by
  obtain ⟨hne, -, -⟩ := validate_iff_labelled.mp (valid_of_run hrun)
  have hpos : 0 < scenario.steps.length := List.length_pos_iff.mpr hne
  have hlt : scenario.steps.length - 1 < whole.steps.length := by
    rw [length_of_run hrun]
    exact Nat.sub_one_lt_of_lt hpos
  refine ⟨_, _, Nat.sub_add_cancel hpos, ?_,
    (reports_iff_of_run hrun).mpr (List.getElem?_eq_getElem hlt)⟩
  rw [List.getLast?_eq_getElem?, length_of_run hrun]
  exact List.getElem?_eq_getElem hlt

end Whole

end Scenario

end PageTimers
