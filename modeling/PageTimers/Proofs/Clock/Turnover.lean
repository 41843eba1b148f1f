/-
# The timers that a drain takes

Where callbacks leave the clock alone, a drain takes timers out one after the
other until none is due (`Takes`), and puts the repeating ones back for their
next turns.  It is the repeating timers that make the order hard to tell, and
they are in nobody's way: of the one-shot timers a drain takes those that are
due when it begins, each of them once, by due time and then by place
(`Takes.once_perm`, `Takes.once_ordered`), whatever fires in between.
-/
import Mathlib.Data.List.Nodup
import PageTimers.Proofs.Clock.Passing

namespace PageTimers

namespace QueuedTimer

variable {α : Type}

def isOnce (timer : QueuedTimer α) : Bool := timer.period.isNone

end QueuedTimer

namespace VirtualClock

variable {α ω : Type}

/-- The one-shot timers that wait. -/
def onceWaiting (clock : VirtualClock α) : List (QueuedTimer α) := clock.queue.filter (·.isOnce)

/-- The repeating timers that wait. -/
def recurring (clock : VirtualClock α) : List TimerId :=
  (clock.waiting.filter (·.period.isSome)).map (·.id)

theorem mem_recurring {id : TimerId} {clock : VirtualClock α} :
    id ∈ clock.recurring ↔ ∃ t ∈ clock.queue, t.isOnce = false ∧ t.id = id := by
  have honce : ∀ t : QueuedTimer α, t.toPending.period.isSome = true ↔ t.isOnce = false := by
    intro t
    rw [QueuedTimer.toPending, QueuedTimer.isOnce]
    cases t.period <;> simp
  have hid : ∀ t : QueuedTimer α, t.toPending.id = t.id := fun _ => rfl
  simp [recurring, waiting, honce, hid, and_assoc]

/-- What waits fires once, or it repeats. -/
theorem mem_ids_iff {id : TimerId} {clock : VirtualClock α} :
    id ∈ clock.queue.map (·.id) ↔ id ∈ clock.onceWaiting.map (·.id) ∨ id ∈ clock.recurring := by
  simp only [mem_recurring, onceWaiting, List.mem_map, List.mem_filter]
  constructor
  · rintro ⟨t, ht, hid⟩
    cases honce : t.isOnce with
    | true => exact Or.inl ⟨t, ⟨ht, honce⟩, hid⟩
    | false => exact Or.inr ⟨t, ht, honce, hid⟩
  · rintro (⟨t, ⟨ht, -⟩, hid⟩ | ⟨t, ht, -, hid⟩)
    · exact ⟨t, ht, hid⟩
    · exact ⟨t, ht, hid⟩

/-- Timer by timer a drain takes these, until none is due. -/
inductive Takes (goal : Goal) : VirtualClock α → List (QueuedTimer α) → VirtualClock α → Prop
  | quiet {clock : VirtualClock α} : clock.next? goal.deadline = none → Takes goal clock [] clock
  | turn {clock clock' : VirtualClock α} {timer : QueuedTimer α} {timers : List (QueuedTimer α)} :
      clock.next? goal.deadline = some timer → Takes goal (clock.afterTurn timer) timers clock' →
      Takes goal clock (timer :: timers) clock'

/-- A turn of a repeating timer leaves the one-shot timers alone, and one of
theirs takes out one of them. -/
theorem onceWaiting_afterTurn (timer : QueuedTimer α) (clock : VirtualClock α) :
    (clock.afterTurn timer).onceWaiting = clock.onceWaiting.filter (·.order != timer.order) := by
  have hstart : (clock.start timer).queue.filter (·.isOnce) =
      clock.onceWaiting.filter (·.order != timer.order) := by
    rw [onceWaiting, List.filter_filter, start, List.filter_filter]
    exact List.filter_congr fun t _ => Bool.and_comm _ _
  rw [afterTurn, onceWaiting]
  rcases finish_cases timer (clock.start timer) with ⟨hrest, -⟩ | ⟨period, -, -, hqueue, -⟩
  · rw [hrest, rest_queue, hstart]
  · rw [hqueue, ← hstart]
    exact List.filter_cons_of_neg Bool.false_ne_true

section Turn

variable {deadline : Option Nat} {clock : VirtualClock α} {timer : QueuedTimer α}

theorem mem_afterTurn {t : QueuedTimer α} (ht : t ∈ (clock.afterTurn timer).queue) :
    t ∈ clock.queue ∨ t.period = timer.period ∧ t.callback = timer.callback := by
  rcases finish_cases timer (clock.start timer) with ⟨hrest, -⟩ | ⟨period, hperiod, -, hqueue, -⟩
  · rw [afterTurn, hrest, rest_queue] at ht
    exact Or.inl ((mem_start_queue _ _).mp ht).1
  · rw [afterTurn, hqueue] at ht
    rcases List.mem_cons.mp ht with rfl | ht
    · exact Or.inr ⟨hperiod.symm, rfl⟩
    · exact Or.inl ((mem_start_queue _ _).mp ht).1

variable (hclock : Tidy ⟨clock, []⟩) (hnext : clock.next? deadline = some timer)

include hclock hnext

theorem onceWaiting_of_repeating (h : timer.isOnce = false) :
    (clock.afterTurn timer).onceWaiting = clock.onceWaiting := by
  have horders : (clock.queue.map (·.order)).Nodup := by
    simpa [held] using hclock.orders
  rw [onceWaiting_afterTurn, List.filter_eq_self]
  intro t ht
  obtain ⟨ht, honce⟩ := List.mem_filter.mp ht
  rw [bne_iff_ne]
  intro horder
  have hsame := List.inj_on_of_nodup_map horders ht (next?_spec hnext).1 horder
  rw [hsame, h] at honce
  cases honce

/-- A repeating timer comes back after its turn. -/
theorem recurring_afterTurn : (clock.afterTurn timer).recurring.Perm clock.recurring := by
  obtain ⟨others, hbefore, hafter⟩ := waiting_afterTurn hclock hnext
  have hturn : (timer.toPending.nextTurn?.toList.filter (·.period.isSome)).map (·.id) =
      ([timer.toPending].filter (·.period.isSome)).map (·.id) := by
    obtain ⟨id, dueAt, order, period, callback, runs⟩ := timer
    cases period <;> rfl
  refine ((hafter.filter _).map _).trans (.trans (.of_eq ?_) ((hbefore.filter _).map _).symm)
  rw [List.filter_append, List.map_append, hturn, ← List.map_append, ← List.filter_append]
  rfl

end Turn

namespace Takes

variable {goal : Goal} {clock clock' : VirtualClock α} {timers : List (QueuedTimer α)}

theorem lastId_eq (h : Takes goal clock timers clock') : clock'.lastId = clock.lastId := by
  induction h with
  | quiet => rfl
  | turn _ _ ih => rw [ih, afterTurn, finish_lastId, start_lastId]

theorem quiet_after (h : Takes goal clock timers clock') : clock'.next? goal.deadline = none := by
  induction h with
  | quiet hnone => exact hnone
  | turn _ _ ih => exact ih

theorem now_le {target : Nat} (h : Takes goal clock timers clock')
    (htarget : goal.deadline = some target) (hnow : clock.now ≤ target) : clock'.now ≤ target := by
  induction h with
  | quiet => exact hnow
  | turn hnext _ ih =>
      rw [htarget] at hnext
      refine ih ?_
      rw [afterTurn, finish_now]
      exact Nat.max_le.mpr ⟨hnow, next?_dueAt_le hnext⟩

theorem le_now (h : Takes goal clock timers clock') : clock.now ≤ clock'.now := by
  induction h with
  | quiet => exact Nat.le_refl _
  | turn _ _ ih =>
      rw [afterTurn, finish_now] at ih
      exact Nat.le_trans (Nat.le_max_left _ _) ih

/-- Period and callback of a timer stay with it. -/
theorem keep {P : Option Nat → α → Prop} (h : Takes goal clock timers clock')
    (hclock : ∀ t ∈ clock.queue, P t.period t.callback) :
    (∀ t ∈ timers, P t.period t.callback) ∧ ∀ t ∈ clock'.queue, P t.period t.callback := by
  induction h with
  | quiet => exact ⟨fun t ht => absurd ht List.not_mem_nil, hclock⟩
  | @turn clock clock' timer timers hnext _ ih =>
      have htimer : P timer.period timer.callback := hclock timer (next?_spec hnext).1
      have hafter : ∀ t ∈ (clock.afterTurn timer).queue, P t.period t.callback := by
        intro t ht
        rcases mem_afterTurn ht with ht | ⟨hperiod, hcallback⟩
        · exact hclock t ht
        · rw [hperiod, hcallback]
          exact htimer
      exact ⟨List.forall_mem_cons.mpr ⟨htimer, (ih hafter).1⟩, (ih hafter).2⟩

section Tidy

variable (hgoal : goal.InTime) (hclock : Tidy ⟨clock, []⟩) (h : Takes goal clock timers clock')

include hgoal hclock h

theorem tidy : Tidy ⟨clock', []⟩ := by
  induction h with
  | quiet => exact hclock
  | turn hnext _ ih => exact ih (tidy_afterTurn hclock hnext goal hgoal rfl)

/-- No repeating timer is lost, and none is new. -/
theorem recurring_perm : clock'.recurring.Perm clock.recurring := by
  induction h with
  | quiet => exact .refl _
  | turn hnext _ ih =>
      exact (ih (tidy_afterTurn hclock hnext goal hgoal rfl)).trans
        (recurring_afterTurn hclock hnext)

/-- Each one-shot timer that is due is taken once, and the others stay. -/
theorem once_perm :
    (timers.filter (·.isOnce)).Perm (clock.onceWaiting.filter (·.isDue goal.deadline)) ∧
      clock'.onceWaiting = clock.onceWaiting.filter fun t => !t.isDue goal.deadline := by
  induction h with
  | @quiet clock hnone =>
      have hlate : ∀ t ∈ clock.onceWaiting, t.isDue goal.deadline = false :=
        fun t ht => next?_eq_none_iff.mp hnone t (List.mem_filter.mp ht).1
      have hnil : clock.onceWaiting.filter (·.isDue goal.deadline) = [] :=
        List.filter_eq_nil_iff.mpr fun t ht => by rw [hlate t ht]; exact Bool.false_ne_true
      rw [hnil]
      exact ⟨.refl _, (List.filter_eq_self.mpr fun t ht => by rw [hlate t ht]; rfl).symm⟩
  | @turn clock clock' timer timers hnext _ ih =>
      obtain ⟨hmem, hdue, -⟩ := next?_spec hnext
      obtain ⟨htaken, hleft⟩ := ih (tidy_afterTurn hclock hnext goal hgoal rfl)
      cases honce : timer.isOnce with
      | false =>
          rw [List.filter_cons_of_neg (by rw [honce]; exact Bool.false_ne_true)]
          rw [onceWaiting_of_repeating hclock hnext honce] at htaken hleft
          exact ⟨htaken, hleft⟩
      | true =>
          have horders : (clock.queue.map (·.order)).Nodup := by
            simpa [held] using hclock.orders
          have hout : clock.onceWaiting.Perm
              (timer :: clock.onceWaiting.filter (·.order != timer.order)) :=
            perm_filter_order (List.mem_filter.mpr ⟨hmem, honce⟩)
              (horders.sublist (List.filter_sublist.map _))
          rw [onceWaiting_afterTurn] at htaken hleft
          refine ⟨?_, ?_⟩
          · rw [List.filter_cons_of_pos honce]
            refine (htaken.cons timer).trans ((hout.filter _).trans (.of_eq ?_)).symm
            exact List.filter_cons_of_pos hdue
          · rw [hleft, List.filter_filter]
            refine List.filter_congr fun t ht => ?_
            cases hlate : t.isDue goal.deadline with
            | true => rfl
            | false =>
                rw [Bool.not_false, Bool.true_and, bne_iff_ne]
                intro horder
                have hsame := List.inj_on_of_nodup_map horders (List.mem_filter.mp ht).1 hmem horder
                rw [hsame, hdue] at hlate
                cases hlate

/-- And it is taken in its turn. -/
theorem once_ordered : (timers.filter (·.isOnce)).Pairwise fun s t => s.precedes t = true := by
  induction h with
  | quiet => exact List.Pairwise.nil
  | @turn clock clock' timer timers hnext hlater ih =>
      have hclock' := tidy_afterTurn hclock hnext goal hgoal rfl
      cases honce : timer.isOnce with
      | false =>
          rw [List.filter_cons_of_neg (by rw [honce]; exact Bool.false_ne_true)]
          exact ih hclock'
      | true =>
          rw [List.filter_cons_of_pos honce]
          refine List.pairwise_cons.mpr ⟨fun t ht => ?_, ih hclock'⟩
          have hwaits : t ∈ (clock.afterTurn timer).onceWaiting :=
            (List.mem_filter.mp ((once_perm hgoal hclock' hlater).1.subset ht)).1
          rw [onceWaiting_afterTurn] at hwaits
          exact next?_precedes hnext t (List.mem_filter.mp (List.mem_filter.mp hwaits).1).1

end Tidy

end Takes

end VirtualClock

/-! ## A drain that succeeds -/

/-- The one-shot timer whose callback was started, if that is what the event
tells. -/
def Event.firedOnce? : Event TimerId → Option TimerId
  | .fired id .once _ => some id
  | _ => none

/-- The one-shot timers that have fired, by the journal, the latest first. -/
def firedOnce (journal : List (Event TimerId)) : List TimerId := journal.filterMap Event.firedOnce?

namespace VirtualClock

variable {α ω : Type} {goal : Goal} {clock : VirtualClock α} {timer : QueuedTimer α}
  {timers : List (QueuedTimer α)} {world : ω} {journal : List (Event TimerId)} {drained : Drained α ω}

theorem firedOnce_startEvent (timer : QueuedTimer α) (clock : VirtualClock α)
    (journal : List (Event TimerId)) : firedOnce (startEvent timer clock :: journal) =
      if timer.isOnce then timer.id :: firedOnce journal else firedOnce journal := by
  obtain ⟨id, dueAt, order, period, callback, runs⟩ := timer
  cases period <;> rfl

theorem firedOnce_reachEvents (goal : Goal) (ran : Nat) (clock : VirtualClock α)
    (journal : List (Event TimerId)) :
    firedOnce (reachEvents goal ran clock ++ journal) = firedOnce journal := by
  cases goal <;> rfl

/-- A drain has taken these timers and called them back one after the other. -/
structure Took (call : α → ω → ω) (goal : Goal) (clock : VirtualClock α) (world : ω)
    (journal : List (Event TimerId)) (timers : List (QueuedTimer α)) (drained : Drained α ω) :
    Prop where
  takes : ∃ clock', Takes goal clock timers clock' ∧ drained.clock = clock'.reach goal
  world : drained.world = timers.foldl (fun world timer => call timer.callback world) world
  fired : firedOnce drained.journal =
    ((timers.filter (·.isOnce)).map (·.id)).reverse ++ firedOnce journal

theorem Took.turn {call : α → ω → ω} (hnext : clock.next? goal.deadline = some timer)
    (h : Took call goal (clock.afterTurn timer) (call timer.callback world)
      (startEvent timer clock :: journal) timers drained) :
    Took call goal clock world journal (timer :: timers) drained where
  takes := by
    obtain ⟨clock', htakes, hclock⟩ := h.takes
    exact ⟨clock', .turn hnext htakes, hclock⟩
  world := h.world
  fired := by
    rw [h.fired, firedOnce_startEvent]
    cases honce : timer.isOnce with
    | true =>
        rw [List.filter_cons_of_pos honce, List.map_cons, List.reverse_cons, List.append_assoc]
        rfl
    | false =>
        rw [List.filter_cons_of_neg (by rw [honce]; exact Bool.false_ne_true)]
        rfl

theorem took_of_turns (call : α → ω → ω) {left ran count : Nat}
    (h : (turns call goal left ran clock world journal).result = .ok count) :
    ∃ timers, Took call goal clock world journal timers
      (turns call goal left ran clock world journal) := by
  induction left, ran, clock, world, journal using turns.induct call goal with
  | case1 left ran clock world journal hnext =>
      rw [turns_none goal call left ran world journal hnext]
      exact ⟨[], ⟨clock, .quiet hnext, rfl⟩, rfl, firedOnce_reachEvents _ _ _ _⟩
  | case2 ran clock world journal timer hnext =>
      rw [turns_limited goal call ran world journal hnext] at h
      cases h
  | case3 ran clock world journal timer hnext left ih =>
      rw [turns_turn goal call left ran world journal hnext] at h ⊢
      obtain ⟨timers, htook⟩ := ih h
      exact ⟨timer :: timers, htook.turn hnext⟩

/-- An advance that succeeds has brought the clock to its target, and has taken
timers until none was due by then. -/
theorem took_of_drain (call : α → ω → ω) {limit ms count : Nat} (hms : ms < word64)
    (h : (drain limit call (.advance (.ofMillis ms)) clock world journal).result = .ok count) :
    clock.now + ms ≤ Duration.lastInstant ∧
    ∃ timers, Took call (.advance ms (clock.now + ms)) clock world journal timers
      (drain limit call (.advance (.ofMillis ms)) clock world journal) := by
  rw [drain] at h ⊢
  by_cases hword : clock.now + ms < word64
  · rw [Goal.of_millis hword] at h ⊢
    exact ⟨Nat.le_sub_one_of_lt hword, took_of_turns call h⟩
  · rw [Goal.of, Duration.millis_ofMillis hms, if_neg hword] at h
    cases h

end VirtualClock

end PageTimers
