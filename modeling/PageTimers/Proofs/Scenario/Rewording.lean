/-
# Ways to cancel

A step that cancels names its timer by a label, and there are two such steps,
one for each kind of timer; a third names a timer by its number.  Which of them
a script uses makes no difference to the page.  The clock looks for the number
only and does not ask for the kind; the interceptor takes the number out of its
set, whatever the kind and whatever the answer; and a label stands for one
number throughout a run.  Only two things tell the wordings apart, the journal
and the words in which a step is reported.

So the two runs are taken side by side.  Their stages are `Alike`, that is, equal
but for the journal, and nothing that a step does depends on that
(`Alike.apply`).  A step that is worded differently does the same to both
(`Alike.reword`), since by then its label stands for the number of the step that
gives it.
-/
import PageTimers.Proofs.Scenario.Checking
import PageTimers.Proofs.Scenario.Offences

namespace PageTimers

/-- The step in other words, among these steps: with the other kind of timer, or
with the number of the timer that the label stands for. -/
inductive Step.Rewording (steps : List Step) (step : Step) : Step → Prop
  | same : Rewording steps step step
  | kind {label : String} {other : Step} (huses : step.uses? = some label)
      (hother : other.uses? = some label) : Rewording steps step other
  | number {label : String} {giver : Nat} {id : UInt64} (huses : step.uses? = some label)
      (hgives : steps[giver]?.bind Step.gives? = some label)
      (hid : id.toNat = numberAt steps giver) : Rewording steps step (.cancelId id)

/-- A step that uses a label cancels the timer for which it stands. -/
theorem Step.apply_of_uses {step : Step} {label : String} (h : step.uses? = some label) :
    ∃ kind, ∀ settings stage,
      step.apply settings stage = cancelAs kind (stage.labelled label) stage := by
  cases step with
  | cancelOnce other =>
      cases h
      exact ⟨.once, fun _ _ => rfl⟩
  | cancelRepeating other =>
      cases h
      exact ⟨.repeating, fun _ _ => rfl⟩
  | _ => cases h

/-! ## The journal has no say -/

namespace Stage

/-- Two stages that differ at most in their journals. -/
structure Alike (stage other : Stage) : Prop where
  clock : other.clock = stage.clock
  page : other.page = stage.page
  labels : other.labels = stage.labels

namespace Alike

variable {settings : Settings} {steps : List Step} {step step' : Step} {stage other : Stage}

theorem eq (h : Alike stage other) : other = { stage with journal := other.journal } := by
  obtain ⟨clock, page, labels, journal⟩ := other
  obtain ⟨rfl, rfl, rfl⟩ := h
  rfl

theorem labelled (h : Alike stage other) (label : String) :
    other.labelled label = stage.labelled label := by
  rw [Stage.labelled, Stage.labelled, h.labels]

theorem journaled (h : Alike stage other) (events events' : List (Event TimerId)) :
    Alike (stage.journaled events) (other.journaled events') := ⟨h.clock, h.page, h.labels⟩

/-- The kind of the timer makes no difference. -/
theorem cancelAs (h : Alike stage other) (kind kind' : TimerKind)
    (id : Except ScenarioError TimerId) :
    (Step.cancelAs kind' id other).result = (Step.cancelAs kind id stage).result ∧
      Alike (Step.cancelAs kind id stage).stage (Step.cancelAs kind' id other).stage := by
  cases id with
  | error e => exact ⟨rfl, h⟩
  | ok id =>
      rw [h.eq]
      refine ⟨rfl, rfl, ?_, rfl⟩
      exact (Page.noteCleared_page stage.page kind' id _).trans
        (Page.noteCleared_page stage.page kind id _).symm

/-- So two steps that use one label do the same. -/
theorem apply_of_uses (h : Alike stage other) {label : String} (huses : step.uses? = some label)
    (huses' : step'.uses? = some label) :
    (step'.apply settings other).result = (step.apply settings stage).result ∧
      Alike (step.apply settings stage).stage (step'.apply settings other).stage := by
  obtain ⟨kind, hstep⟩ := Step.apply_of_uses huses
  obtain ⟨kind', hstep'⟩ := Step.apply_of_uses huses'
  rw [hstep, hstep', h.labelled]
  exact h.cancelAs kind kind' _

theorem drained (h : Alike stage other) (settings : Settings) (ms : UInt64) :
    (other.drained settings ms).clock = (stage.drained settings ms).clock ∧
      (other.drained settings ms).world = (stage.drained settings ms).world ∧
      (other.drained settings ms).result = (stage.drained settings ms).result := by
  rw [Stage.drained, Stage.drained, h.clock, h.page, VirtualClock.drain_journal assign _ other.journal,
    VirtualClock.drain_journal assign _ stage.journal]
  exact ⟨rfl, rfl, rfl⟩

/-- A step does the same to both. -/
theorem apply (h : Alike stage other) (settings : Settings) (step : Step) :
    (step.apply settings other).result = (step.apply settings stage).result ∧
      Alike (step.apply settings stage).stage (step.apply settings other).stage := by
  cases step with
  | advance ms =>
      obtain ⟨hclock, hworld, hresult⟩ := h.drained settings ms
      rw [Step.apply_advance, Step.apply_advance]
      refine ⟨by rw [hresult], ?_, ?_, ?_⟩
      · rw [after_clock, after_clock, hclock]
      · rw [after_page, after_page, hworld]
      · rw [after_labels, after_labels, h.labels]
  | cancelOnce label => exact h.apply_of_uses rfl rfl
  | cancelRepeating label => exact h.apply_of_uses rfl rfl
  | cancelId id => exact h.cancelAs .once .once (.ok ⟨id.toNat⟩)
  | _ =>
      rw [h.eq]
      exact ⟨rfl, rfl, rfl, rfl⟩

/-- So does a step in other words, if the label that it uses stands for the
timer of the step that gives it. -/
theorem reworded (h : Alike stage other) (settings : Settings)
    (hwording : Step.Rewording steps step step')
    (hlabels : ∀ label giver, step.uses? = some label →
      steps[giver]?.bind Step.gives? = some label →
        stage.labelled label = .ok ⟨numberAt steps giver⟩) :
    (step'.apply settings other).result = (step.apply settings stage).result ∧
      Alike (step.apply settings stage).stage (step'.apply settings other).stage := by
  cases hwording with
  | same => exact h.apply settings step
  | kind huses hother => exact h.apply_of_uses huses hother
  | @number label giver id huses hgives hid =>
      obtain ⟨kind, hstep⟩ := Step.apply_of_uses huses
      rw [hstep, hlabels label giver huses hgives, ← hid]
      exact h.cancelAs kind .once _

/-- And its report differs in the words for it. -/
theorem report (h : Alike stage other) (index : Nat) (step step' : Step) (answer : StepAnswer) :
    step'.report index answer other =
      { step.report index answer stage with step := step'.describe } := by
  rw [h.eq]
  rfl

end Alike

end Stage

namespace Step.Rewording

variable {steps : List Step} {step other : Step} {label : String}

theorem gives? (h : Step.Rewording steps step other) : other.gives? = step.gives? := by
  have hnone : ∀ {step : Step} {label : String}, step.uses? = some label → step.gives? = none := by
    intro step label huses
    cases step <;> first | rfl | cases huses
  cases h with
  | same => rfl
  | kind huses hother => rw [hnone huses, hnone hother]
  | number huses _ _ => rw [hnone huses]; rfl

theorem uses? (h : Step.Rewording steps step other) (huses : other.uses? = some label) :
    step.uses? = some label := by
  cases h with
  | same => exact huses
  | kind huses' hother =>
      rw [hother] at huses
      rwa [huses] at huses'
  | number => cases huses

end Step.Rewording

/-! ## Whole scripts -/

/-- The report with the words for another step. -/
def StepReport.worded (report : StepReport) (step : Step) : StepReport :=
  { report with step := step.describe }

namespace Scenario

/-- Two runs have come to the same: they have failed alike, or they stand alike
and have reported the same but for the words for the steps. -/
inductive Abreast (steps : List Step) (one other : Staged (List StepReport)) : Prop
  | stand {reports : List StepReport} (h : one.result = .ok reports)
      (hother : other.result = .ok (reports.zipWith StepReport.worded steps))
      (halike : one.stage.Alike other.stage) : Abreast steps one other
  | failed {error : ScenarioError} (h : one.result = .error error)
      (hother : other.result = .error error) : Abreast steps one other

section Reworded

variable {settings : Settings} {scenario : Scenario} {steps : List Step} {index count : Nat}
  {step : Step} {label : String}
  (hwording : List.Forall₂ (Step.Rewording scenario.steps) scenario.steps steps)

include hwording

theorem exists_wording (hstep : scenario.steps[index]? = some step) :
    ∃ other, steps[index]? = some other ∧ Step.Rewording scenario.steps step other := by
  obtain ⟨hlength, hall⟩ := List.forall₂_iff_get.mp hwording
  obtain ⟨hindex, rfl⟩ := List.getElem?_eq_some_iff.mp hstep
  exact ⟨_, List.getElem?_eq_getElem (hlength ▸ hindex), hall index hindex _⟩

theorem bind_gives_wording (index : Nat) :
    steps[index]?.bind Step.gives? = scenario.steps[index]?.bind Step.gives? := by
  cases hstep : scenario.steps[index]? with
  | some step =>
      obtain ⟨other, hother, h⟩ := exists_wording hwording hstep
      rw [hother, Option.bind_some, Option.bind_some, h.gives?]
  | none =>
      rw [List.getElem?_eq_none_iff, hwording.length_eq, ← List.getElem?_eq_none_iff] at hstep
      rw [hstep]

theorem uses_of_wording (h : steps[index]?.bind Step.uses? = some label) :
    scenario.steps[index]?.bind Step.uses? = some label := by
  obtain ⟨other, hother, huses⟩ := Option.bind_eq_some_iff.mp h
  have hindex : index < scenario.steps.length := by
    rw [hwording.length_eq]
    exact (List.getElem?_eq_some_iff.mp hother).1
  obtain ⟨other', hother', hstep⟩ := exists_wording hwording (List.getElem?_eq_getElem hindex)
  rw [hother] at hother'
  cases hother'
  rw [List.getElem?_eq_getElem hindex, Option.bind_some, hstep.uses? huses]

variable (hvalid : scenario.validate = .ok ())

include hvalid

/-- In other words a scenario makes sense as well: it gives the same labels, and
uses no others. -/
theorem validate_wording : { scenario with steps := steps }.validate = .ok () := by
  obtain ⟨hne, hnodup, huses⟩ := validate_iff_labelled.mp hvalid
  refine validate_iff_labelled.mpr ⟨?_, ?_, fun index label hlabel => ?_⟩
  · rintro rfl
    exact hne (List.forall₂_nil_right_iff.mp hwording)
  · rw [nodup_iff_not_given_before] at hnodup ⊢
    intro index label hgives
    simp only [bind_gives_wording hwording] at hgives ⊢
    exact hnodup index label hgives
  · simp only [bind_gives_wording hwording]
    exact huses index label (uses_of_wording hwording hlabel)

omit hwording in
/-- When a step uses a label, that stands for the number of the step that gives
it. -/
theorem labelled_of_gives {reports : List StepReport} {giver : Nat}
    (hreached : (scenario.upTo settings index).result = .ok reports)
    (hstep : scenario.steps[index]? = some step) (huses : step.uses? = some label)
    (hgives : scenario.steps[giver]?.bind Step.gives? = some label) :
    (scenario.upTo settings index).stage.labelled label =
      .ok ⟨numberAt scenario.steps giver⟩ := by
  obtain ⟨-, hnodup, hgiven⟩ := validate_iff_labelled.mp hvalid
  obtain ⟨earlier, hlt, hearlier⟩ := hgiven index label (by rw [hstep, Option.bind_some, huses])
  -- the label is given once
  have honce := nodup_iff_not_given_before.mp hnodup
  obtain rfl : giver = earlier := by
    refine Nat.le_antisymm (Nat.le_of_not_lt fun h => ?_) (Nat.le_of_not_lt fun h => ?_)
    · exact honce giver label hgives ⟨earlier, h, hearlier⟩
    · exact honce earlier label hearlier ⟨giver, h, hgives⟩
  have hlabel := (named_upTo hvalid hreached).labels_iff.mpr
    ⟨giver, gives_take_iff.mpr ⟨hlt, hgives⟩, rfl⟩
  rw [Stage.labelled, hlabel, numberAt_take hlt]

/-- The two runs are abreast all the way. -/
theorem abreast_upTo (settings : Settings) (hcount : count ≤ scenario.steps.length) :
    Abreast (steps.take count) (scenario.upTo settings count)
      (upTo settings { scenario with steps := steps } count) := by
  induction count with
  | zero => exact .stand rfl rfl ⟨rfl, rfl, rfl⟩
  | succ count ih =>
      have hstep : scenario.steps[count]? = some scenario.steps[count] :=
        List.getElem?_eq_getElem hcount
      obtain ⟨step', hstep', hword⟩ := exists_wording hwording hstep
      cases ih (Nat.le_of_lt hcount) with
      | failed h hother => exact .failed (upTo_succ_of_failed h) (upTo_succ_of_failed hother)
      | @stand reports h hother halike =>
          obtain ⟨hresult, halike⟩ := halike.reworded settings hword
            fun label giver => labelled_of_gives hvalid h hstep
          have hlength : reports.length = (steps.take count).length := by
            rw [length_of_steps? h, List.length_take, List.length_take, hwording.length_eq]
          cases hanswer : (scenario.steps[count].apply settings
              (scenario.upTo settings count).stage).result with
          | error error =>
              exact .failed (upTo_succ_of_error hstep h hanswer)
                (upTo_succ_of_error hstep' hother (hresult.trans hanswer))
          | ok answer =>
              refine .stand (upTo_succ_of_ok hstep h hanswer) ?_ ?_
              · rw [upTo_succ_of_ok hstep' hother (hresult.trans hanswer), List.take_add_one, hstep',
                  Option.toList_some, List.zipWith_append hlength,
                  halike.report count scenario.steps[count]]
                rfl
              · rw [stage_upTo_succ hstep h hanswer,
                  stage_upTo_succ hstep' hother (hresult.trans hanswer)]
                exact halike.journaled _ _

theorem run_wording : (run settings { scenario with steps := steps }).result =
    (scenario.run settings).result.map fun report =>
      { report with steps := report.steps.zipWith StepReport.worded steps } := by
  have habreast := abreast_upTo hwording hvalid settings (Nat.le_refl _)
  rw [hwording.length_eq, List.take_length, ← hwording.length_eq] at habreast
  rw [run_result hvalid, run_result (validate_wording hwording hvalid), ← hwording.length_eq]
  cases habreast with
  | failed h hother => rw [h, hother]; rfl
  | stand h hother halike => rw [h, hother, halike.labels]; rfl

end Reworded

/-- **It makes no difference which way a timer is cancelled.**  Let a run not
fail for the script's sake, and let steps that cancel by a label be replaced, any
of them, by the step of the other kind or by one that gives the number for which
the label stands.  Then the scenario makes sense as before, and its run fails
with the same error, or reports the same of every step but for the words for it.
The numbers are those that the labels come to stand for in the run. -/
theorem run_of_rewording (settings : Settings) {scenario : Scenario} {steps : List Step}
    (hrun : (∃ report, (scenario.run settings).result = .ok report) ∨
      ∃ error, (scenario.run settings).result = .error (.timer error))
    (hwording : List.Forall₂ (Step.Rewording scenario.steps) scenario.steps steps) :
    let other : Scenario := { scenario with steps := steps }
    other.validate = .ok () ∧
    (∀ error, (scenario.run settings).result = .error error →
      (other.run settings).result = .error error) ∧
    (∀ report, (scenario.run settings).result = .ok report → (other.run settings).result =
      .ok { report with steps := report.steps.zipWith StepReport.worded steps }) ∧
    ∀ (count : Nat) (reports : List StepReport) (label : String) (id : TimerId),
      (scenario.upTo settings count).result = .ok reports →
      (scenario.upTo settings count).stage.labels.get? label = some id →
      ∃ giver : Nat, scenario.steps[giver]?.bind Step.gives? = some label ∧
        id = ⟨numberAt scenario.steps giver⟩ := by
  intro other
  have hvalid : scenario.validate = .ok () := by
    cases hvalid : scenario.validate with
    | ok _ => rfl
    | error flaw =>
        rw [(run_error_iff (isFlaw_of_validate hvalid)).mpr hvalid] at hrun
        rcases hrun with ⟨report, hreport⟩ | ⟨error, herror⟩
        · cases hreport
        · cases herror
          cases isFlaw_of_validate hvalid
  refine ⟨validate_wording hwording hvalid, fun error herror => ?_, fun report hreport => ?_,
    fun count reports label id hreached hlabel => ?_⟩
  · rw [run_wording hwording hvalid, herror]
    rfl
  · rw [run_wording hwording hvalid, hreport]
    rfl
  · obtain ⟨giver, hgives, rfl⟩ := (named_upTo hvalid hreached).labels_iff.mp hlabel
    obtain ⟨hlt, hgives⟩ := gives_take_iff.mp hgives
    exact ⟨giver, hgives, by rw [numberAt_take hlt]⟩

/-- Of two timers one is cancelled before the interceptor is there, and the other
is cancelled twice. -/
def tidying (first second third : Step) : Scenario where
  name := "tidying"
  description := none
  steps := [.scheduleOnce "note" 5 none, first, .installInterceptor, .scheduleRepeating "poll" 3,
    .advance 7, second, third]

/-- All three ways of wording it; the last one cancels in vain. -/
theorem tidying_reworded :
    let plain := tidying (.cancelOnce "note") (.cancelRepeating "poll") (.cancelRepeating "poll")
    let other := tidying (.cancelRepeating "note") (.cancelId 2) (.cancelOnce "poll")
    List.Forall₂ (Step.Rewording plain.steps) plain.steps other.steps ∧
    other.validate = .ok () ∧
    ∃ report, (plain.run {}).result = .ok report ∧
      (other.run {}).result =
        .ok { report with steps := report.steps.zipWith StepReport.worded other.steps } := by
  intro plain other
  have hends : (plain.run {}).result.isOk = true := by decide +kernel
  obtain ⟨report, hreport⟩ : ∃ report, (plain.run {}).result = .ok report := by
    cases hresult : (plain.run {}).result with
    | ok report => exact ⟨report, rfl⟩
    | error e =>
        rw [hresult] at hends
        cases hends
  have hnumber : Step.Rewording plain.steps (.cancelRepeating "poll") (.cancelId 2) :=
    @Step.Rewording.number _ _ "poll" 3 2 rfl rfl rfl
  have hwording : List.Forall₂ (Step.Rewording plain.steps) plain.steps other.steps :=
    .cons .same (.cons (.kind rfl rfl) (.cons .same (.cons .same (.cons .same
      (.cons hnumber (.cons (.kind rfl rfl) .nil))))))
  obtain ⟨hvalid, -, hother, -⟩ := run_of_rewording {} (Or.inl ⟨report, hreport⟩) hwording
  exact ⟨hwording, hvalid, report, hreport, hother report hreport⟩

end Scenario

end PageTimers
