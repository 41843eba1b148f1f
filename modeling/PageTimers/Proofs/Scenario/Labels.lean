/-
# Numbers and labels along a run

Every step that schedules is given the next number, and its label stands for
that number from then on.  Nothing else touches either: not what is cancelled,
not what fires, and not how the clock stands, so `Named` holds throughout a run
without any condition on time.
-/
import Mathlib.Data.List.Nodup
import PageTimers.Proofs.Json.Fields
import PageTimers.Proofs.Scenario.Ledger

namespace PageTimers

theorem ids_nodup (steps : List Step) : ((schedulings 0 0 steps).map (·.id)).Nodup := by
  rw [ids_schedulings]
  exact List.nodup_range'

/-- Numbers and labels agree with the steps that have led to a stage. -/
structure Named (steps : List Step) (stage : Stage) : Prop where
  lastId : stage.clock.lastId = (schedulings 0 0 steps).length
  labels : ∀ label id, stage.labels.get? label = some id ↔
    ∃ s ∈ schedulings 0 0 steps, s.label = label ∧ id = ⟨s.id⟩

namespace Named

variable {steps : List Step} {step : Step} {stage stage' : Stage}

theorem fresh : Named [] Stage.fresh where
  lastId := rfl
  labels label id := by
    constructor
    · intro h
      cases h
    · rintro ⟨s, hs, -⟩
      exact absurd hs List.not_mem_nil

theorem schedulings_append_of_none (hstep : step.schedules? = none) :
    schedulings 0 0 (steps ++ [step]) = (schedulings 0 0 steps).map (·.onward [step]) := by
  rw [schedulings_append, schedulings_cons_none _ _ _ hstep]
  exact List.append_nil _

/-- A step that schedules nothing leaves numbers and labels alone. -/
theorem of_unscheduled (h : Named steps stage) (hstep : step.schedules? = none)
    (hlastId : stage'.clock.lastId = stage.clock.lastId) (hlabels : stage'.labels = stage.labels) :
    Named (steps ++ [step]) stage' where
  lastId := by
    rw [hlastId, h.lastId, schedulings_append_of_none hstep, List.length_map]
  labels label id := by
    rw [hlabels, h.labels, schedulings_append_of_none hstep]
    constructor
    · rintro ⟨s, hs, hlabel, hid⟩
      exact ⟨s.onward [step], List.mem_map_of_mem hs, hlabel, hid⟩
    · rintro ⟨_, hs, hlabel, hid⟩
      obtain ⟨s, hmem, rfl⟩ := List.mem_map.mp hs
      exact ⟨s, hmem, hlabel, hid⟩

section Scheduled

variable (h : Named steps stage) {kind : TimerKind} {label : String} {millis : Nat}
  (hstep : step.schedules? = some (kind, label, millis))

include h hstep

theorem schedulings_append_of_some :
    schedulings 0 0 (steps ++ [step]) = (schedulings 0 0 steps).map (·.onward [step]) ++
      [⟨stage.clock.lastId + 1, label, kind, elapsed steps, millis, []⟩] := by
  rw [schedulings_append, schedulings_cons_some _ _ _ hstep, h.lastId, Nat.zero_add, Nat.zero_add]
  rfl

/-- The new label stands for the new number, and the others for theirs. -/
theorem schedule (hnodup : ((schedulings 0 0 (steps ++ [step])).map (·.label)).Nodup)
    (hlastId : stage'.clock.lastId = stage.clock.lastId + 1)
    (hlabels : stage'.labels = stage.labels.insert label ⟨stage.clock.lastId + 1⟩) :
    Named (steps ++ [step]) stage' where
  lastId := by
    rw [hlastId, h.schedulings_append_of_some hstep, List.length_append, List.length_map, h.lastId]
    rfl
  labels other id := by
    have hall := h.schedulings_append_of_some hstep
    have hfresh : ∀ s ∈ schedulings 0 0 steps, s.label ≠ label := by
      intro s hs
      rw [hall, List.map_append, List.map_map, List.nodup_append] at hnodup
      exact hnodup.2.2 s.label (List.mem_map_of_mem hs) label List.mem_cons_self
    rw [hlabels, Fields.get?_insert, hall]
    constructor
    · intro hget
      split at hget
      · next hother =>
        cases hget
        exact ⟨_, List.mem_append_right _ List.mem_cons_self, hother, rfl⟩
      · obtain ⟨s, hs, hlabel, hid⟩ := (h.labels other id).mp hget
        exact ⟨s.onward [step], List.mem_append_left _ (List.mem_map_of_mem hs), hlabel, hid⟩
    · rintro ⟨s, hs, rfl, rfl⟩
      rcases List.mem_append.mp hs with hs | hs
      · obtain ⟨s, hmem, rfl⟩ := List.mem_map.mp hs
        refine (if_neg (hfresh s hmem).symm).trans ?_
        exact (h.labels s.label ⟨s.id⟩).mpr ⟨s, hmem, rfl, rfl⟩
      · obtain rfl := List.mem_singleton.mp hs
        exact if_pos rfl

end Scheduled

/-- A label that was given stands for one timer. -/
theorem cancels_label (h : Named steps stage)
    (hnodup : ((schedulings 0 0 steps).map (·.label)).Nodup) {label : String} {id : TimerId}
    (hid : stage.labels.get? label = some id) :
    ∀ s ∈ schedulings 0 0 steps, (label == s.label) = decide (⟨s.id⟩ = id) := by
  obtain ⟨r, hr, rfl, rfl⟩ := (h.labels label id).mp hid
  intro s hs
  rw [Bool.eq_iff_iff, beq_iff_eq, decide_eq_true_iff, TimerId.mk.injEq]
  constructor
  · intro hlabel
    rw [List.inj_on_of_nodup_map hnodup hr hs hlabel]
  · intro hid
    rw [List.inj_on_of_nodup_map (ids_nodup steps) hs hr hid]

end Named

end PageTimers
