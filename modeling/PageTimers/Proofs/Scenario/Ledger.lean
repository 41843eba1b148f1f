/-
# The timers that a scenario has scheduled

The steps of a scenario say by themselves which timers are scheduled, when,
and which of them are cancelled later on: time passes by the steps that
advance, and the timers are numbered as they are scheduled.  `schedulings`
reads all of this off the steps.

A repeating timer that was scheduled at `s` with the period `p` is due at the
multiples `s + p, s + 2p, …`, so that when the clock shows `now` it waits for

    s + ((now - s) / p + 1) * p    (`waitsAt`)

and this is what time that passes makes of it (`passed_waitsAt`).  A due time
past the last instant stays there, and no advance short of it comes to see it.
-/
import PageTimers.Proofs.Clock.Passing
import PageTimers.Proofs.Scenario.Offences
import PageTimers.Scenario.Run

namespace PageTimers

/-! ## What the steps say -/

namespace Step

/-- What a step schedules: the kind, the label, and the delay or period. -/
def schedules? : Step → Option (TimerKind × String × Nat)
  | scheduleOnce label delay _ => some (.once, label, delay.toNat)
  | scheduleRepeating label period => some (.repeating, label, period.toNat)
  | _ => none

/-- How many milliseconds pass. -/
def passes : Step → Nat
  | advance ms => ms.toNat
  | _ => 0

/-- Whether a step cancels the timer with this number and this label. -/
def cancels (id : Nat) (label : String) : Step → Bool
  | cancelOnce other => other == label
  | cancelRepeating other => other == label
  | cancelId other => other.toNat == id
  | _ => false

end Step

/-- A timer that was scheduled. -/
structure Scheduling where
  id : Nat
  label : String
  kind : TimerKind
  /-- When it was scheduled. -/
  time : Nat
  /-- The delay or the period that was asked for. -/
  millis : Nat
  /-- The steps that came after. -/
  since : List Step

namespace Scheduling

def isCancelled (s : Scheduling) : Bool := s.since.any (Step.cancels s.id s.label)

/-- Not cancelled, and not fired either if it fires once only. -/
def isLive (journal : List (Event TimerId)) (s : Scheduling) : Bool :=
  !s.isCancelled && (s.kind == .repeating || !hasFired ⟨s.id⟩ journal)

/-- A repeating timer has at least one millisecond. -/
def period (s : Scheduling) : Nat := max s.millis 1

/-- How often it fires between `now` and `target`, while it is live. -/
def firings (now target : Nat) (s : Scheduling) : Nat :=
  match s.kind with
  | .once => if s.time + s.millis ≤ target then 1 else 0
  | .repeating => (target - s.time) / s.period - (now - s.time) / s.period

/-- The timer that waits for it when the clock shows `now`. -/
def waitsAt (now : Nat) (s : Scheduling) : PendingTimer TimerId :=
  match s.kind with
  | .once => ⟨⟨s.id⟩, .once, saturatingAdd s.time s.millis, none⟩
  | .repeating =>
    ⟨⟨s.id⟩, .repeating, saturatingAdd s.time (((now - s.time) / s.period + 1) * s.period),
      some s.period⟩

/-- The same, some steps later. -/
def onward (more : List Step) (s : Scheduling) : Scheduling := { s with since := s.since ++ more }

end Scheduling

/-- All timers that steps schedule, from a clock that shows `now` and has
handed out `lastId` numbers. -/
def schedulings : (now lastId : Nat) → List Step → List Scheduling
  | _, _, [] => []
  | now, lastId, step :: rest =>
    match step.schedules? with
    | some (kind, label, millis) =>
      ⟨lastId + 1, label, kind, now, millis, rest⟩ :: schedulings now (lastId + 1) rest
    | none => schedulings (now + step.passes) lastId rest

/-- How much time passes in all. -/
def elapsed (steps : List Step) : Nat := (steps.map Step.passes).sum

theorem elapsed_cons (step : Step) (steps : List Step) :
    elapsed (step :: steps) = step.passes + elapsed steps := List.sum_cons

theorem elapsed_append (first second : List Step) :
    elapsed (first ++ second) = elapsed first + elapsed second := by
  rw [elapsed, List.map_append, List.sum_append]
  rfl

section Schedulings

variable {step : Step} {kind : TimerKind} {label : String} {millis : Nat}

theorem Step.passes_of_schedules (h : step.schedules? = some (kind, label, millis)) :
    step.passes = 0 := by
  cases step with
  | advance ms => cases h
  | _ => rfl

theorem schedulings_cons_some (now lastId : Nat) (steps : List Step)
    (h : step.schedules? = some (kind, label, millis)) :
    schedulings now lastId (step :: steps) =
      ⟨lastId + 1, label, kind, now, millis, steps⟩ :: schedulings now (lastId + 1) steps := by
  rw [schedulings, h]

theorem schedulings_cons_none (now lastId : Nat) (steps : List Step) (h : step.schedules? = none) :
    schedulings now lastId (step :: steps) = schedulings (now + step.passes) lastId steps := by
  rw [schedulings, h]

end Schedulings

theorem schedulings_append (now lastId : Nat) (steps more : List Step) :
    schedulings now lastId (steps ++ more) =
      (schedulings now lastId steps).map (·.onward more) ++
        schedulings (now + elapsed steps) (lastId + (schedulings now lastId steps).length) more := by
  induction steps generalizing now lastId with
  | nil => rfl
  | cons step steps ih =>
      cases hstep : step.schedules? with
      | none =>
          rw [List.cons_append, schedulings_cons_none _ _ _ hstep, schedulings_cons_none _ _ _ hstep,
            elapsed_cons, ← Nat.add_assoc]
          exact ih (now + step.passes) lastId
      | some scheduled =>
          obtain ⟨kind, label, millis⟩ := scheduled
          rw [List.cons_append, schedulings_cons_some _ _ _ hstep, schedulings_cons_some _ _ _ hstep,
            elapsed_cons, Step.passes_of_schedules hstep, Nat.zero_add, ih, List.map_cons,
            List.length_cons, List.cons_append, Nat.add_right_comm lastId, Nat.add_assoc lastId]
          rfl

/-- Timers are numbered one after the other. -/
theorem ids_schedulings (now lastId : Nat) (steps : List Step) :
    (schedulings now lastId steps).map (·.id) =
      List.range' (lastId + 1) (schedulings now lastId steps).length := by
  induction steps generalizing now lastId with
  | nil => rfl
  | cons step steps ih =>
      cases hstep : step.schedules? with
      | none =>
          rw [schedulings_cons_none _ _ _ hstep]
          exact ih _ lastId
      | some scheduled =>
          rw [schedulings_cons_some _ _ _ hstep, List.map_cons, List.length_cons, List.range'_succ, ih]

theorem pairwise_schedulings (steps : List Step) : (schedulings 0 0 steps).Pairwise (·.id < ·.id) := by
  rw [← List.pairwise_map (R := (· < ·)), ids_schedulings]
  exact List.pairwise_lt_range'

theorem Step.gives?_eq (step : Step) : step.gives? = step.schedules?.map fun s => s.2.1 := by
  cases step <;> rfl

theorem labels_schedulings (now lastId : Nat) (steps : List Step) :
    (schedulings now lastId steps).map (·.label) = steps.filterMap Step.gives? := by
  induction steps generalizing now lastId with
  | nil => rfl
  | cons step steps ih =>
      rw [List.filterMap_cons, Step.gives?_eq]
      cases hstep : step.schedules? with
      | none =>
          rw [schedulings_cons_none _ _ _ hstep]
          exact ih _ lastId
      | some scheduled =>
          rw [schedulings_cons_some _ _ _ hstep, List.map_cons, ih]
          rfl

theorem length_schedulings (now lastId : Nat) (steps : List Step) :
    (schedulings now lastId steps).length = steps.countP fun step => step.gives?.isSome := by
  rw [← List.length_map (f := (·.label)), labels_schedulings, List.length_filterMap_eq_countP]

/-- The number of the timer that the step at `index` schedules. -/
def numberAt (steps : List Step) (index : Nat) : Nat :=
  (steps.take (index + 1)).countP fun step => step.gives?.isSome

theorem numberAt_succ (step : Step) (steps : List Step) (index : Nat) :
    numberAt (step :: steps) (index + 1) =
      numberAt steps index + if step.gives?.isSome then 1 else 0 := by
  rw [numberAt, List.take_succ_cons, List.countP_cons]
  rfl

/-- This is what the step at `index` schedules, if it schedules at all. -/
structure ScheduledAt (now lastId : Nat) (steps : List Step) (index : Nat) (s : Scheduling) :
    Prop where
  schedules : steps[index]?.bind Step.schedules? = some (s.kind, s.label, s.millis)
  id : s.id = lastId + numberAt steps index
  time : s.time = now + elapsed (steps.take index)
  since : s.since = steps.drop (index + 1)

section ScheduledAt

variable {now lastId index : Nat} {step : Step} {steps : List Step} {s : Scheduling}

theorem scheduledAt_succ : ScheduledAt now lastId (step :: steps) (index + 1) s ↔
    ScheduledAt (now + step.passes) (lastId + if step.gives?.isSome then 1 else 0) steps index s := by
  have hid : lastId + numberAt (step :: steps) (index + 1) =
      lastId + (if step.gives?.isSome then 1 else 0) + numberAt steps index := by
    rw [numberAt_succ, Nat.add_assoc, Nat.add_comm (numberAt _ _)]
  have htime : now + elapsed ((step :: steps).take (index + 1)) =
      now + step.passes + elapsed (steps.take index) := by
    rw [List.take_succ_cons, elapsed_cons, Nat.add_assoc]
  constructor
  · exact fun h => ⟨h.schedules, h.id.trans hid, h.time.trans htime, h.since⟩
  · exact fun h => ⟨h.schedules, h.id.trans hid.symm, h.time.trans htime.symm, h.since⟩

theorem scheduledAt_zero : ScheduledAt now lastId (step :: steps) 0 s ↔
    step.schedules? = some (s.kind, s.label, s.millis) ∧
      s = ⟨lastId + 1, s.label, s.kind, now, s.millis, steps⟩ := by
  have hone : ∀ {scheduled}, step.schedules? = some scheduled → numberAt (step :: steps) 0 = 1 := by
    intro scheduled h
    have hgives : step.gives?.isSome = true := by
      rw [Step.gives?_eq, h]
      rfl
    rw [numberAt, List.take_succ_cons, List.countP_cons, if_pos hgives]
    rfl
  constructor
  · rintro ⟨hschedules, hid, htime, hsince⟩
    rw [hone hschedules] at hid
    refine ⟨hschedules, ?_⟩
    rw [Scheduling.mk.injEq]
    exact ⟨hid, rfl, rfl, htime, rfl, hsince⟩
  · rintro ⟨hschedules, hs⟩
    rw [hs] at hschedules ⊢
    exact ⟨hschedules, by rw [hone hschedules], rfl, rfl⟩

/-- No time passes in the step itself. -/
theorem ScheduledAt.time_eq (h : ScheduledAt now lastId steps index s) :
    s.time = now + elapsed (steps.take (index + 1)) := by
  obtain ⟨step, hstep, hschedules⟩ := Option.bind_eq_some_iff.mp h.schedules
  rw [h.time, List.take_add_one, hstep, Option.toList_some, elapsed_append, elapsed_cons,
    Step.passes_of_schedules hschedules, Nat.zero_add]
  rfl

/-- What steps schedule, one of them schedules. -/
theorem mem_schedulings_iff : s ∈ schedulings now lastId steps ↔
    ∃ index, ScheduledAt now lastId steps index s := by
  induction steps generalizing now lastId with
  | nil =>
      refine iff_of_false List.not_mem_nil ?_
      rintro ⟨index, h⟩
      cases h.schedules
  | cons step steps ih =>
      have hsplit : (∃ index, ScheduledAt now lastId (step :: steps) index s) ↔
          ScheduledAt now lastId (step :: steps) 0 s ∨
            ∃ index, ScheduledAt now lastId (step :: steps) (index + 1) s := by
        constructor
        · rintro ⟨_ | index, h⟩
          · exact Or.inl h
          · exact Or.inr ⟨index, h⟩
        · rintro (h | ⟨index, h⟩)
          · exact ⟨0, h⟩
          · exact ⟨index + 1, h⟩
      rw [hsplit, scheduledAt_zero]
      simp only [scheduledAt_succ]
      cases hstep : step.schedules? with
      | none => simp [schedulings_cons_none _ _ _ hstep, ih, Step.gives?_eq, hstep]
      | some scheduled =>
          obtain ⟨kind, label, millis⟩ := scheduled
          rw [schedulings_cons_some _ _ _ hstep, List.mem_cons, ih, Step.gives?_eq, hstep,
            Step.passes_of_schedules hstep]
          refine or_congr ?_ Iff.rfl
          constructor
          · rintro rfl
            exact ⟨rfl, rfl⟩
          · rintro ⟨hscheduled, hs⟩
            cases hscheduled
            exact hs

/-- A step that schedules does so at its place. -/
theorem exists_scheduledAt (now lastId : Nat) {kind : TimerKind} {label : String} {millis : Nat}
    (h : steps[index]?.bind Step.schedules? = some (kind, label, millis)) :
    ∃ s, ScheduledAt now lastId steps index s ∧ s.kind = kind ∧ s.label = label ∧
      s.millis = millis :=
  ⟨⟨lastId + numberAt steps index, label, kind, now + elapsed (steps.take index), millis,
    steps.drop (index + 1)⟩, ⟨h, rfl, rfl, rfl⟩, rfl, rfl, rfl⟩

/-- It is the label that tells whether a step schedules. -/
theorem exists_scheduledAt_iff (now lastId : Nat) {label : String} :
    (∃ s, ScheduledAt now lastId steps index s ∧ s.label = label) ↔
      steps[index]?.bind Step.gives? = some label := by
  constructor
  · rintro ⟨s, h, rfl⟩
    obtain ⟨step, hstep, hschedules⟩ := Option.bind_eq_some_iff.mp h.schedules
    rw [hstep, Option.bind_some, Step.gives?_eq, hschedules]
    rfl
  · intro h
    obtain ⟨step, hstep, hgives⟩ := Option.bind_eq_some_iff.mp h
    rw [Step.gives?_eq, Option.map_eq_some_iff] at hgives
    obtain ⟨⟨kind, label, millis⟩, hschedules, rfl⟩ := hgives
    have hscheduled : steps[index]?.bind Step.schedules? = some (kind, label, millis) := by
      rw [hstep, Option.bind_some, hschedules]
    obtain ⟨s, hs, -, hlabel, -⟩ := exists_scheduledAt now lastId hscheduled
    exact ⟨s, hs, hlabel⟩

end ScheduledAt

section Take

variable {steps : List Step} {step : Step} {index giver count : Nat} {label : String}

theorem numberAt_take (h : index < count) :
    numberAt (steps.take count) index = numberAt steps index := by
  rw [numberAt, List.take_take, Nat.min_eq_left h]
  rfl

/-- The steps since, by their places among all. -/
theorem ScheduledAt.getElem?_since {now lastId place : Nat} {s : Scheduling}
    (hs : ScheduledAt now lastId (steps.take (index + 1)) giver s) : s.since[place]? = some step ↔
      giver + 1 + place ≤ index ∧ steps[giver + 1 + place]? = some step := by
  rw [hs.since, List.getElem?_drop, getElem?_take_iff, Nat.lt_succ_iff]

/-- And the time that has passed when one of them has been taken. -/
theorem ScheduledAt.time_add_elapsed_since {lastId place : Nat} {s : Scheduling}
    (hs : ScheduledAt 0 lastId (steps.take (index + 1)) giver s) (hle : giver + 1 + place ≤ index) :
    s.time + elapsed (s.since.take (place + 1)) = elapsed (steps.take (giver + 1 + place + 1)) := by
  have htime : s.time = elapsed (steps.take (giver + 1)) := by
    rw [hs.time_eq, List.take_take, Nat.min_eq_left (by omega), Nat.zero_add]
  have hsince : s.since.take (place + 1) = (steps.drop (giver + 1)).take (place + 1) := by
    rw [hs.since, List.drop_take, List.take_take, Nat.min_eq_left (by omega)]
  rw [htime, hsince, ← elapsed_append, ← List.take_add, Nat.add_assoc _ place]

end Take

theorem time_le_of_mem {now lastId : Nat} {steps : List Step} {s : Scheduling}
    (hs : s ∈ schedulings now lastId steps) : s.time ≤ now + elapsed steps := by
  induction steps generalizing now lastId with
  | nil => exact absurd hs List.not_mem_nil
  | cons step steps ih =>
      rw [elapsed_cons, ← Nat.add_assoc]
      cases hstep : step.schedules? with
      | none =>
          rw [schedulings_cons_none _ _ _ hstep] at hs
          exact ih hs
      | some scheduled =>
          rw [schedulings_cons_some _ _ _ hstep] at hs
          rw [Step.passes_of_schedules hstep]
          rcases List.mem_cons.mp hs with rfl | hs
          · exact Nat.le_add_right _ _
          · exact ih hs

/-! ### Labels -/

/-- A scenario that makes sense gives no label twice. -/
theorem nodup_labels {scenario : Scenario} {before after : List Step}
    (hvalid : scenario.validate = .ok ()) (hsteps : scenario.steps = before ++ after) :
    ((schedulings 0 0 before).map (·.label)).Nodup := by
  obtain ⟨-, hnodup, -⟩ := Scenario.validate_iff_labelled.mp hvalid
  rw [hsteps, List.filterMap_append] at hnodup
  rw [labels_schedulings]
  exact hnodup.sublist (List.sublist_append_left _ _)

/-! ### What waits, and how often it fires -/

namespace Scheduling

variable {now target : Nat} {s : Scheduling}

theorem period_pos (s : Scheduling) : 0 < s.period := Nat.le_max_right _ _

@[simp] theorem waitsAt_id : (s.waitsAt now).id = ⟨s.id⟩ := by
  unfold waitsAt
  split <;> rfl

section Between

variable (htime : s.time ≤ now) (hnow : now ≤ target) (htarget : target < Duration.lastInstant)

include htime hnow htarget

/-- The next turn of a repeating timer is due by `target` if a period ends
between. -/
theorem dueAt_le_iff (hkind : s.kind = .repeating) :
    (s.waitsAt now).dueAt ≤ target ↔
      (now - s.time) / s.period + 1 ≤ (target - s.time) / s.period := by
  have hdue : (s.waitsAt now).dueAt =
      saturatingAdd s.time (((now - s.time) / s.period + 1) * s.period) := by
    rw [waitsAt, hkind]
  rw [hdue, PendingTimer.saturatingAdd_le_iff htarget, Nat.le_div_iff_mul_le s.period_pos]
  omega

omit htime hnow in
theorem dueAt_of_le (hkind : s.kind = .repeating) (h : (s.waitsAt now).dueAt ≤ target) :
    (s.waitsAt now).dueAt = s.time + ((now - s.time) / s.period + 1) * s.period := by
  rw [waitsAt, hkind] at h ⊢
  have hle := (PendingTimer.saturatingAdd_le_iff htarget).mp h
  exact Nat.min_eq_left (Nat.le_trans hle (Nat.le_of_lt htarget))

theorem firingsBy_waitsAt : (s.waitsAt now).firingsBy target = s.firings now target := by
  cases hkind : s.kind with
  | once =>
      simp only [waitsAt, hkind, PendingTimer.firingsBy, firings,
        PendingTimer.saturatingAdd_le_iff htarget]
  | repeating =>
      have hiff := s.dueAt_le_iff htime hnow htarget hkind
      have hperiod : (s.waitsAt now).period = some s.period := by rw [waitsAt, hkind]
      rw [PendingTimer.firingsBy, firings, hkind, hperiod]
      by_cases hdue : (s.waitsAt now).dueAt ≤ target
      · have hsub : target - (s.waitsAt now).dueAt =
            target - s.time - s.period * ((now - s.time) / s.period + 1) := by
          rw [s.dueAt_of_le htarget hkind hdue, Nat.mul_comm s.period, Nat.sub_add_eq]
        have hle := hiff.mp hdue
        simp only [if_pos hdue, hsub, Nat.sub_mul_div]
        omega
      · have hlt := mt hiff.mpr hdue
        simp only [if_neg hdue]
        omega

/-- A one-shot timer is gone when its time has come, and a repeating one waits
for its next turn. -/
theorem passed_waitsAt : (s.waitsAt now).passed target =
    if s.kind = .once ∧ s.time + s.millis ≤ target then none else some (s.waitsAt target) := by
  cases hkind : s.kind with
  | once =>
      simp only [waitsAt, hkind, PendingTimer.passed, PendingTimer.saturatingAdd_le_iff htarget,
        true_and, Option.map_none]
  | repeating =>
      have hiff := s.dueAt_le_iff htime hnow htarget hkind
      have hperiod : (s.waitsAt now).period = some s.period := by rw [waitsAt, hkind]
      rw [if_neg (by simp)]
      by_cases hdue : (s.waitsAt now).dueAt ≤ target
      · have hsum : (s.waitsAt now).dueAt + s.firings now target * s.period =
            s.time + ((target - s.time) / s.period + 1) * s.period := by
          have hle := hiff.mp hdue
          have hcount : s.firings now target =
              (target - s.time) / s.period - (now - s.time) / s.period := by rw [firings, hkind]
          have hturns : (now - s.time) / s.period + 1 + s.firings now target =
              (target - s.time) / s.period + 1 := by omega
          rw [s.dueAt_of_le htarget hkind hdue, Nat.add_assoc, ← Nat.add_mul, hturns]
        rw [PendingTimer.passed, if_pos hdue, hperiod, Option.map_some,
          s.firingsBy_waitsAt htime hnow htarget, saturatingAdd, hsum]
        simp only [waitsAt, hkind, saturatingAdd]
      · have hlt := mt hiff.mpr hdue
        have hle : (now - s.time) / s.period ≤ (target - s.time) / s.period :=
          Nat.div_le_div_right (by omega)
        have hsame : (now - s.time) / s.period = (target - s.time) / s.period := by omega
        rw [PendingTimer.passed, if_neg hdue]
        simp only [waitsAt, hkind, hsame]

end Between

end Scheduling

end PageTimers
