/-
# The first offence

The check of a scenario is one pass that carries along the labels given so far,
and stops where something is wrong.  What it comes to can be said without a
pass.  A step *offends* against the steps before it if it gives a label that
one of them gives, or uses a label that none of them gives (`Step.Offends`).
Then

    the check accepts                no step offends
    the check stops with an error    it is what the first offender does

Whether a label was used, cancelled or fired in the meantime plays no part, and
neither does the kind of the timer.

No offence at all is a condition on pairs of steps, `validate_iff_labelled`: no
label is given twice, and what is used was given earlier.  Of every pair that a
beginning of the script has, the whole script has it too, so a beginning makes
sense where the whole does.
-/
import PageTimers.Scenario.Basic

namespace PageTimers

/-! ## The steps before -/

section Take

variable {steps : List Step} {step : Step} {index giver count : Nat} {label : String}

theorem getElem?_take_iff : (steps.take count)[index]? = some step ↔
    index < count ∧ steps[index]? = some step := by
  rw [List.getElem?_take]
  split
  · next hlt => exact (and_iff_right hlt).symm
  · next hge => exact iff_of_false nofun fun h => hge h.1

theorem mem_take_iff : step ∈ steps.take count ↔ ∃ place < count, steps[place]? = some step := by
  rw [List.mem_iff_getElem?]
  exact exists_congr fun place => getElem?_take_iff

theorem bind_take_iff {β : Type} {f : Step → Option β} {b : β} :
    (steps.take count)[giver]?.bind f = some b ↔ giver < count ∧ steps[giver]?.bind f = some b := by
  rw [Option.bind_eq_some_iff, Option.bind_eq_some_iff, ← exists_and_left]
  refine exists_congr fun step => ?_
  rw [getElem?_take_iff, and_assoc]

theorem gives_take_iff : (steps.take count)[giver]?.bind Step.gives? = some label ↔
    giver < count ∧ steps[giver]?.bind Step.gives? = some label := bind_take_iff

end Take

/-! ## Offences -/

/-- What a step does wrong, after these steps. -/
inductive Step.Offends (before : List Step) (step : Step) : ScenarioError → Prop
  | duplicate {label : String} (hgives : step.gives? = some label)
      (hgiven : label ∈ before.filterMap Step.gives?) : Offends before step (.duplicateLabel label)
  | unknown {label : String} (huses : step.uses? = some label)
      (hgiven : label ∉ before.filterMap Step.gives?) : Offends before step (.unknownLabel label)

/-- A step that gives a label uses none. -/
theorem Step.uses?_of_gives {step : Step} {label : String} (h : step.gives? = some label) :
    step.uses? = none := by
  cases step <;> first | rfl | cases h

theorem Step.Offends.unique {before : List Step} {step : Step} {error other : ScenarioError}
    (h : step.Offends before error) (h' : step.Offends before other) : error = other := by
  cases h with
  | duplicate hgives hgiven =>
      cases h' with
      | duplicate hgives' _ =>
          rw [hgives] at hgives'
          cases hgives'
          rfl
      | unknown huses _ =>
          rw [Step.uses?_of_gives hgives] at huses
          cases huses
  | unknown huses hgiven =>
      cases h' with
      | duplicate hgives _ =>
          rw [Step.uses?_of_gives hgives] at huses
          cases huses
      | unknown huses' _ =>
          rw [huses] at huses'
          cases huses'
          rfl

namespace Scenario

/-- None of the steps offends, if they come after `before`. -/
def Inoffensive (before steps : List Step) : Prop :=
  ∀ (index : Nat) (step : Step), steps[index]? = some step →
    ∀ error, ¬ step.Offends (before ++ steps.take index) error

/-- The step at `index` is the first that offends. -/
structure FirstOffence (before steps : List Step) (index : Nat) (error : ScenarioError) : Prop where
  offends : ∃ step : Step, steps[index]? = some step ∧
    step.Offends (before ++ steps.take index) error
  first : ∀ earlier < index, ∀ step : Step, steps[earlier]? = some step → ∀ other,
    ¬ step.Offends (before ++ steps.take earlier) other

variable {before steps : List Step} {step : Step} {error : ScenarioError} {label : String}
  {scenario : Scenario}

/-! ## Step by step -/

theorem take_succ_after (index : Nat) :
    before ++ (step :: steps).take (index + 1) = before ++ [step] ++ steps.take index := by
  rw [List.take_succ_cons, List.append_assoc, List.singleton_append]

theorem inoffensive_cons (hstep : ∀ error, ¬ step.Offends before error)
    (h : Inoffensive (before ++ [step]) steps) : Inoffensive before (step :: steps) := by
  intro index other hother
  cases index with
  | zero =>
      cases hother
      rw [List.take_zero, List.append_nil]
      exact hstep
  | succ index =>
      rw [take_succ_after]
      exact h index other hother

theorem firstOffence_zero (h : step.Offends before error) :
    FirstOffence before (step :: steps) 0 error where
  offends := ⟨step, rfl, by rwa [List.take_zero, List.append_nil]⟩
  first _ hearlier := absurd hearlier (Nat.not_lt_zero _)

theorem FirstOffence.succ {index : Nat} (hstep : ∀ error, ¬ step.Offends before error)
    (h : FirstOffence (before ++ [step]) steps index error) :
    FirstOffence before (step :: steps) (index + 1) error where
  offends := by
    obtain ⟨other, hother, hoffends⟩ := h.offends
    exact ⟨other, hother, by rwa [take_succ_after]⟩
  first earlier hearlier other hother := by
    cases earlier with
    | zero =>
        cases hother
        rw [List.take_zero, List.append_nil]
        exact hstep
    | succ earlier =>
        rw [take_succ_after]
        exact h.first earlier (Nat.lt_of_succ_lt_succ hearlier) other hother

/-- The labels that steps give, the latest first: what the check has noted by
then. -/
def given (steps : List Step) : List String := (steps.filterMap Step.gives?).reverse

theorem mem_given : label ∈ given steps ↔ label ∈ steps.filterMap Step.gives? := List.mem_reverse

theorem given_snoc : given (before ++ [step]) = step.gives?.toList ++ given before := by
  rw [given, List.filterMap_append, List.reverse_append, given]
  cases hgives : step.gives? with
  | none => rw [List.filterMap_cons_none hgives]; rfl
  | some label => rw [List.filterMap_cons_some hgives]; rfl

/-- The check stops at a step that offends, and passes over any other. -/
theorem checkLabels_cons (before : List Step) (step : Step) (steps : List Step) :
    (∃ error, step.Offends before error ∧
      checkLabels (given before) (step :: steps) = .error error) ∨
    ((∀ error, ¬ step.Offends before error) ∧
      checkLabels (given before) (step :: steps) =
        checkLabels (given (before ++ [step])) steps) := by
  rw [checkLabels, given_snoc]
  cases hgives : step.gives? with
  | some label =>
      by_cases hgiven : label ∈ before.filterMap Step.gives?
      · refine Or.inl ⟨_, .duplicate hgives hgiven, ?_⟩
        exact if_pos (List.contains_iff_mem.mpr (mem_given.mpr hgiven))
      · refine Or.inr ⟨fun error h => ?_, ?_⟩
        · cases h with
          | duplicate hgives' hgiven' =>
              rw [hgives] at hgives'
              cases hgives'
              exact hgiven hgiven'
          | unknown huses _ =>
              rw [Step.uses?_of_gives hgives] at huses
              cases huses
        · exact if_neg fun h => hgiven (mem_given.mp (List.contains_iff_mem.mp h))
  | none =>
      have hnone : ∀ error, step.Offends before error → ∃ label, step.uses? = some label ∧
          label ∉ before.filterMap Step.gives? := by
        intro error h
        cases h with
        | duplicate hgives' _ =>
            rw [hgives] at hgives'
            cases hgives'
        | unknown huses hgiven => exact ⟨_, huses, hgiven⟩
      cases huses : step.uses? with
      | none =>
          refine Or.inr ⟨fun error h => ?_, rfl⟩
          obtain ⟨label, huses', -⟩ := hnone error h
          rw [huses] at huses'
          cases huses'
      | some label =>
          by_cases hgiven : label ∈ before.filterMap Step.gives?
          · refine Or.inr ⟨fun error h => ?_, ?_⟩
            · obtain ⟨label', huses', hgiven'⟩ := hnone error h
              rw [huses] at huses'
              cases huses'
              exact hgiven' hgiven
            · exact if_pos (List.contains_iff_mem.mpr (mem_given.mpr hgiven))
          · refine Or.inl ⟨_, .unknown huses hgiven, ?_⟩
            exact if_neg fun h => hgiven (mem_given.mp (List.contains_iff_mem.mp h))

/-- So the check finds the first offence, or there is none. -/
theorem checkLabels_spec (before steps : List Step) :
    (checkLabels (given before) steps = .ok () ∧ Inoffensive before steps) ∨
    ∃ index error, checkLabels (given before) steps = .error error ∧
      FirstOffence before steps index error := by
  induction steps generalizing before with
  | nil => exact Or.inl ⟨rfl, fun _ _ h => by cases h⟩
  | cons step steps ih =>
      rcases checkLabels_cons before step steps with ⟨error, hoffends, hcheck⟩ | ⟨hstep, hcheck⟩
      · exact Or.inr ⟨0, error, hcheck, firstOffence_zero hoffends⟩
      · rcases ih (before ++ [step]) with ⟨hok, h⟩ | ⟨index, error, herror, h⟩
        · exact Or.inl ⟨hcheck.trans hok, inoffensive_cons hstep h⟩
        · exact Or.inr ⟨index + 1, error, hcheck.trans herror, h.succ hstep⟩

/-! ## The whole script -/

theorem FirstOffence.unique {index index' : Nat} {other : ScenarioError}
    (h : FirstOffence before steps index error) (h' : FirstOffence before steps index' other) :
    error = other := by
  obtain ⟨step, hstep, hoffends⟩ := h.offends
  obtain ⟨step', hstep', hoffends'⟩ := h'.offends
  obtain rfl : index = index' := by
    refine Nat.le_antisymm (Nat.le_of_not_lt fun hlt => ?_) (Nat.le_of_not_lt fun hlt => ?_)
    · exact h.first _ hlt _ hstep' _ hoffends'
    · exact h'.first _ hlt _ hstep _ hoffends
  rw [hstep] at hstep'
  cases hstep'
  exact hoffends.unique hoffends'

theorem checkLabels_ok_iff : checkLabels [] steps = .ok () ↔ Inoffensive [] steps := by
  rcases checkLabels_spec [] steps with ⟨hok, h⟩ | ⟨index, error, herror, h⟩
  · exact iff_of_true hok h
  · refine iff_of_false (fun hok => ?_) fun hnone => ?_
    · cases hok.symm.trans herror
    · obtain ⟨step, hstep, hoffends⟩ := h.offends
      exact hnone index step hstep error hoffends

theorem checkLabels_error_iff :
    checkLabels [] steps = .error error ↔ ∃ index, FirstOffence [] steps index error := by
  rcases checkLabels_spec [] steps with ⟨hok, hnone⟩ | ⟨index, error', herror', h⟩
  · refine iff_of_false (fun herror => ?_) ?_
    · cases hok.symm.trans herror
    · rintro ⟨index, h⟩
      obtain ⟨step, hstep, hoffends⟩ := h.offends
      exact hnone index step hstep error hoffends
  · constructor
    · intro herror
      cases herror'.symm.trans herror
      exact ⟨index, h⟩
    · rintro ⟨index', h'⟩
      rw [h'.unique h]
      exact herror'

theorem validate_of_steps (h : scenario.steps ≠ []) :
    scenario.validate = checkLabels [] scenario.steps := by
  rw [validate, if_neg (by simpa using h)]

/-! ## No offence -/

/-- A label was given by an earlier step. -/
theorem mem_given_before {index : Nat} : label ∈ (steps.take index).filterMap Step.gives? ↔
    ∃ giver < index, steps[giver]?.bind Step.gives? = some label := by
  rw [List.mem_filterMap]
  constructor
  · rintro ⟨step, hstep, hgives⟩
    obtain ⟨giver, hlt, hgiver⟩ := mem_take_iff.mp hstep
    exact ⟨giver, hlt, by rw [hgiver, Option.bind_some, hgives]⟩
  · rintro ⟨giver, hlt, hgives⟩
    obtain ⟨step, hgiver, hgives⟩ := Option.bind_eq_some_iff.mp hgives
    exact ⟨step, mem_take_iff.mpr ⟨giver, hlt, hgiver⟩, hgives⟩

/-- No label is given twice if no step gives one that an earlier step gives. -/
theorem nodup_iff_not_given_before : (steps.filterMap Step.gives?).Nodup ↔
    ∀ (index : Nat) (label : String), steps[index]?.bind Step.gives? = some label →
      ¬ ∃ giver < index, steps[giver]?.bind Step.gives? = some label := by
  rw [List.Nodup, List.pairwise_filterMap, List.pairwise_iff_getElem]
  constructor
  · rintro h index label hlater ⟨giver, hlt, hearlier⟩
    obtain ⟨later, hindex, hlater⟩ := Option.bind_eq_some_iff.mp hlater
    obtain ⟨earlier, hgiver, hearlier⟩ := Option.bind_eq_some_iff.mp hearlier
    obtain ⟨hindexLt, rfl⟩ := List.getElem?_eq_some_iff.mp hindex
    obtain ⟨hgiverLt, rfl⟩ := List.getElem?_eq_some_iff.mp hgiver
    exact h giver index hgiverLt hindexLt hlt label hearlier label hlater rfl
  · rintro h giver index hgiver hindex hlt label hearlier label' hlater rfl
    refine h index label ?_ ⟨giver, hlt, ?_⟩
    · rw [List.getElem?_eq_getElem hindex, Option.bind_some, hlater]
    · rw [List.getElem?_eq_getElem hgiver, Option.bind_some, hearlier]

theorem inoffensive_iff : Inoffensive [] steps ↔ (steps.filterMap Step.gives?).Nodup ∧
    ∀ (index : Nat) (label : String), steps[index]?.bind Step.uses? = some label →
      ∃ giver < index, steps[giver]?.bind Step.gives? = some label := by
  rw [nodup_iff_not_given_before]
  constructor
  · intro h
    refine ⟨fun index label hgives hbefore => ?_, fun index label huses => ?_⟩
    · obtain ⟨step, hstep, hgives⟩ := Option.bind_eq_some_iff.mp hgives
      exact h index step hstep _ (.duplicate hgives (mem_given_before.mpr hbefore))
    · obtain ⟨step, hstep, huses⟩ := Option.bind_eq_some_iff.mp huses
      refine Decidable.not_not.mp fun hbefore => h index step hstep _ (.unknown huses ?_)
      exact fun hgiven => hbefore (mem_given_before.mp hgiven)
  · rintro ⟨hgives, huses⟩ index step hstep error hoffends
    cases hoffends with
    | duplicate hgives' hgiven =>
        refine hgives index _ ?_ (mem_given_before.mp hgiven)
        rw [hstep, Option.bind_some, hgives']
    | unknown huses' hgiven =>
        refine hgiven (mem_given_before.mpr (huses index _ ?_))
        rw [hstep, Option.bind_some, huses']

/-- A scenario makes sense if it has steps, gives no label twice, and uses only
labels that were given earlier. -/
theorem validate_iff_labelled : scenario.validate = .ok () ↔
    scenario.steps ≠ [] ∧ (scenario.steps.filterMap Step.gives?).Nodup ∧
      ∀ (index : Nat) (label : String), scenario.steps[index]?.bind Step.uses? = some label →
        ∃ giver < index, scenario.steps[giver]?.bind Step.gives? = some label := by
  by_cases hsteps : scenario.steps = []
  · refine iff_of_false (fun hvalid => ?_) fun h => h.1 hsteps
    rw [validate, hsteps] at hvalid
    cases hvalid
  · rw [validate_of_steps hsteps, checkLabels_ok_iff, inoffensive_iff, and_iff_right hsteps]

theorem validate_error_iff : scenario.validate = .error error ↔
    (scenario.steps = [] ∧ error = .empty) ∨ ∃ index, FirstOffence [] scenario.steps index error := by
  by_cases hsteps : scenario.steps = []
  · have hnone : ¬ ∃ index, FirstOffence [] scenario.steps index error := by
      rintro ⟨index, h⟩
      obtain ⟨step, hstep, -⟩ := h.offends
      rw [hsteps] at hstep
      cases hstep
    rw [or_iff_left hnone, and_iff_right hsteps, validate, hsteps]
    exact ⟨fun h => by cases h; rfl, fun h => by rw [h]; rfl⟩
  · rw [validate_of_steps hsteps, checkLabels_error_iff, or_iff_right fun h => hsteps h.1]

/-- What holds of all pairs of steps holds of those at the beginning. -/
theorem validate_of_isPrefix {beginning : Scenario} (hvalid : scenario.validate = .ok ())
    (hsteps : beginning.steps <+: scenario.steps) (hne : beginning.steps ≠ []) :
    beginning.validate = .ok () := by
  obtain ⟨-, hnodup, huses⟩ := validate_iff_labelled.mp hvalid
  have htake := List.prefix_iff_eq_take.mp hsteps
  refine validate_iff_labelled.mpr ⟨hne, hnodup.sublist (hsteps.sublist.filterMap _), ?_⟩
  intro index label hlabel
  rw [htake] at hlabel ⊢
  obtain ⟨hlt, hlabel⟩ := bind_take_iff.mp hlabel
  obtain ⟨giver, hearlier, hgives⟩ := huses index label hlabel
  exact ⟨giver, hearlier, gives_take_iff.mpr ⟨Nat.lt_trans hearlier hlt, hgives⟩⟩

/-- **The check finds the first offence.**  A scenario is accepted exactly if it
has steps, no label is given twice, whatever the kinds of the timers, and every
label that is used was given by an earlier step.  Otherwise the error says that
there are no steps, or what is wrong with the first step that offends against
those before it.  So the beginnings of an accepted scenario are accepted. -/
theorem validate_finds_first_offence (scenario : Scenario) :
    (scenario.validate = .ok () ↔
      scenario.steps ≠ [] ∧ (scenario.steps.filterMap Step.gives?).Nodup ∧
        ∀ (index : Nat) (label : String), scenario.steps[index]?.bind Step.uses? = some label →
          ∃ giver < index, scenario.steps[giver]?.bind Step.gives? = some label) ∧
    (∀ error, scenario.validate = .error error ↔
      (scenario.steps = [] ∧ error = .empty) ∨
        ∃ index, FirstOffence [] scenario.steps index error) ∧
    (scenario.validate = .ok () → ∀ beginning : Scenario, beginning.steps <+: scenario.steps →
      beginning.steps ≠ [] → beginning.validate = .ok ()) :=
  ⟨validate_iff_labelled, fun _ => validate_error_iff, fun hvalid _ => validate_of_isPrefix hvalid⟩

/-- The label is given again under another kind; another one is used too early,
but that comes later. -/
example : (Scenario.mk "twice" none [.scheduleOnce "a" 5 none, .scheduleRepeating "a" 5,
    .cancelOnce "b", .scheduleOnce "b" 5 none]).validate = .error (.duplicateLabel "a") := rfl

end Scenario

end PageTimers
