/-
# What the passing of time makes of a queue

Where callbacks leave the clock alone, what an advance does can be told from
the queue: a timer that is due at `d` and repeats every `p` milliseconds fires

    (target - d) / p + 1

times, if it is due by the target at all, and a one-shot timer fires once.  The
drain takes timers one after the other and arms each again for its next turn,
so the count of a timer is one more than the count of its next turn
(`firingsBy_of_isDue`), whatever comes in between.

The last instant is left out.  A timer that is armed past it waits there for
good, and a clock that came to it would fire that timer over and over.
-/
import Mathlib.Algebra.BigOperators.Group.List.Basic
import Mathlib.Algebra.GroupWithZero.Nat
import PageTimers.Proofs.Clock.Identity

namespace PageTimers

/-! ## One timer -/

namespace PendingTimer

variable {ι : Type}

/-- How often a timer fires until the clock shows `target`. -/
def firingsBy (target : Nat) (t : PendingTimer ι) : Nat :=
  if t.dueAt ≤ target then
    match t.period with
    | none => 1
    | some period => (target - t.dueAt) / period + 1
  else 0

/-- The next turn of a timer that has fired. -/
def nextTurn? (t : PendingTimer ι) : Option (PendingTimer ι) :=
  t.period.map fun period => { t with dueAt := saturatingAdd t.dueAt period }

/-- What waits of a timer when the clock shows `target`. -/
def passed (target : Nat) (t : PendingTimer ι) : Option (PendingTimer ι) :=
  if t.dueAt ≤ target then
    t.period.map fun period =>
      { t with dueAt := saturatingAdd t.dueAt (t.firingsBy target * period) }
  else some t

variable {target : Nat} {t : PendingTimer ι}

theorem firingsBy_of_late (h : target < t.dueAt) : t.firingsBy target = 0 :=
  if_neg (Nat.not_le_of_lt h)

theorem passed_of_late (h : target < t.dueAt) : t.passed target = some t :=
  if_neg (Nat.not_le_of_lt h)

theorem saturatingAdd_le_iff {instant span : Nat} (htarget : target < Duration.lastInstant) :
    saturatingAdd instant span ≤ target ↔ instant + span ≤ target := by
  unfold saturatingAdd
  omega

section Due

variable (htarget : target < Duration.lastInstant) (hdue : t.dueAt ≤ target)
  (hperiod : ∀ period, t.period = some period → 1 ≤ period)

include htarget hdue hperiod

/-- A timer that is due fires once, and then as often as its next turn. -/
theorem firingsBy_of_isDue : t.firingsBy target = t.nextTurn?.elim 0 (firingsBy target) + 1 := by
  obtain ⟨id, kind, dueAt, period⟩ := t
  cases period with
  | none => exact if_pos hdue
  | some period =>
      have hpos : 0 < period := hperiod period rfl
      have hdue : dueAt ≤ target := hdue
      simp only [firingsBy, nextTurn?, if_pos hdue, Option.map_some, Option.elim_some,
        saturatingAdd_le_iff htarget]
      by_cases hnext : dueAt + period ≤ target
      · have hsum : saturatingAdd dueAt period = dueAt + period := by
          unfold saturatingAdd
          omega
        rw [if_pos hnext, hsum, Nat.sub_add_eq, Nat.div_eq_sub_div hpos (by omega)]
      · rw [if_neg hnext, Nat.div_eq_of_lt (by omega)]

theorem passed_of_isDue : t.passed target = t.nextTurn?.bind (passed target) := by
  have hcount := firingsBy_of_isDue htarget hdue hperiod
  obtain ⟨id, kind, dueAt, period⟩ := t
  cases period with
  | none => exact if_pos hdue
  | some period =>
      have hdue : dueAt ≤ target := hdue
      simp only [nextTurn?, Option.map_some, Option.elim_some] at hcount
      simp only [nextTurn?, Option.map_some, Option.bind_some]
      rw [passed, if_pos hdue, hcount]
      simp only [passed, Option.map_some, saturatingAdd_le_iff htarget]
      by_cases hnext : dueAt + period ≤ target
      · have hsum : saturatingAdd dueAt period = dueAt + period := by
          unfold saturatingAdd
          omega
        have hadd : ∀ n, saturatingAdd dueAt (n + period) = saturatingAdd (dueAt + period) n := by
          intro n
          unfold saturatingAdd
          omega
        rw [if_pos hnext, hsum, Nat.add_mul, Nat.one_mul, hadd]
      · rw [if_neg hnext, firingsBy, if_neg (by rwa [saturatingAdd_le_iff htarget]), Nat.zero_add,
          Nat.one_mul]

end Due

end PendingTimer

/-! ## All that wait -/

/-- It tells that a callback of this timer was started. -/
def Event.isFiringOf (id : TimerId) : Event TimerId → Bool
  | .fired other _ _ => other == id
  | _ => false

/-- The journal tells that a timer has fired. -/
def hasFired (id : TimerId) (journal : List (Event TimerId)) : Bool :=
  journal.any (Event.isFiringOf id)

namespace VirtualClock

variable {α ω : Type} {clock : VirtualClock α} {target : Nat} {timer : QueuedTimer α}

/-- The timers that wait, without their callbacks. -/
def waiting (clock : VirtualClock α) : List (PendingTimer TimerId) := clock.queue.map (·.toPending)

/-- How many callbacks are started until the clock shows `target`. -/
def firingsBy (target : Nat) (clock : VirtualClock α) : Nat :=
  (clock.waiting.map (·.firingsBy target)).sum

/-- No timer repeats without end at one instant. -/
def Periodic (clock : VirtualClock α) : Prop :=
  ∀ t ∈ clock.waiting, ∀ period, t.period = some period → 1 ≤ period

/-- The clock after a turn whose callback leaves it alone. -/
def afterTurn (timer : QueuedTimer α) (clock : VirtualClock α) : VirtualClock α :=
  (clock.start timer).finish timer

section Turn

variable {deadline : Option Nat} (hclock : Tidy ⟨clock, []⟩) (hnext : clock.next? deadline = some timer)

include hclock hnext

/-- A turn takes out one timer and puts back its next turn. -/
theorem waiting_afterTurn : ∃ others, clock.waiting.Perm (timer.toPending :: others) ∧
    (clock.afterTurn timer).waiting.Perm (timer.toPending.nextTurn?.toList ++ others) := by
  have horders : (clock.queue.map (·.order)).Nodup := by
    simpa [held] using hclock.orders
  have hperm := perm_filter_order (next?_spec hnext).1 horders
  refine ⟨(clock.start timer).waiting, hperm.map _, ?_⟩
  obtain ⟨id, dueAt, order, period, callback, runs⟩ := timer
  cases period <;> exact .refl _

theorem tidy_afterTurn (goal : Goal) (hgoal : goal.InTime) (hdeadline : goal.deadline = deadline) :
    Tidy ⟨clock.afterTurn timer, []⟩ := by
  subst hdeadline
  have hstart : Beat False ⟨clock, []⟩ (.started timer (clock.start timer).now)
      ⟨clock.start timer, [⟨goal, 0, 0, timer⟩]⟩ := .start hnext hgoal (Or.inl rfl)
  have hfinish : Beat False ⟨clock.start timer, [⟨goal, 0, 0, timer⟩]⟩ (.returned timer)
      ⟨clock.afterTurn timer, []⟩ := .finish
  exact (hclock.beat hstart).beat hfinish

end Turn

/-- What the passing of time until `target` leaves of a clock, and what it adds
to the journal. -/
structure Passed (target : Nat) (clock : VirtualClock α) (journal : List (Event TimerId))
    (clock' : VirtualClock α) (journal' : List (Event TimerId)) : Prop where
  now : clock'.now = target
  lastId : clock'.lastId = clock.lastId
  tidy : Tidy ⟨clock', []⟩
  waiting : clock'.waiting.Perm (clock.waiting.filterMap (·.passed target))
  fired : ∀ id, hasFired id journal' = true ↔
    hasFired id journal = true ∨ ∃ t ∈ clock.waiting, t.id = id ∧ t.dueAt ≤ target

theorem Passed.of_none (delta ran : Nat) (journal : List (Event TimerId))
    (htarget : target ≤ Duration.lastInstant) (hclock : Tidy ⟨clock, []⟩) (hnow : clock.now ≤ target)
    (hnone : clock.next? (some target) = none) :
    clock.firingsBy target = 0 ∧ Passed target clock journal (clock.reach (.advance delta target))
      (reachEvents (.advance delta target) ran clock ++ journal) := by
  have hlate : ∀ t ∈ clock.waiting, target < t.dueAt := by
    intro t ht
    obtain ⟨timer, htimer, rfl⟩ := List.mem_map.mp ht
    have hdue := next?_eq_none_iff.mp hnone timer htimer
    exact Nat.lt_of_not_le (of_decide_eq_false hdue)
  refine ⟨?_, ?_⟩
  · refine List.sum_eq_zero fun n hn => ?_
    obtain ⟨t, ht, rfl⟩ := List.mem_map.mp hn
    exact PendingTimer.firingsBy_of_late (hlate t ht)
  · constructor
    case now => exact Nat.max_eq_right hnow
    case lastId => rfl
    case tidy =>
      have hreach : Beat False ⟨clock, []⟩ (.reached (clock.reach (.advance delta target)).now)
          ⟨clock.reach (.advance delta target), []⟩ := .reach hnone htarget (Or.inl rfl)
      exact hclock.beat hreach
    case waiting =>
      have hsame : clock.waiting.filterMap (·.passed target) = clock.waiting.filterMap some :=
        List.filterMap_congr fun t ht => PendingTimer.passed_of_late (hlate t ht)
      rw [hsame, List.filterMap_some]
      exact .refl _
    case fired =>
      intro id
      refine ⟨Or.inl, ?_⟩
      rintro (h | ⟨t, ht, -, hdue⟩)
      · exact h
      · exact absurd hdue (Nat.not_le_of_lt (hlate t ht))

section Due

variable (htarget : target < Duration.lastInstant) (hclock : Tidy ⟨clock, []⟩)
  (hperiodic : clock.Periodic) (hnext : clock.next? (some target) = some timer)

include hclock hperiodic hnext

theorem Periodic.afterTurn : (clock.afterTurn timer).Periodic := by
  obtain ⟨others, hbefore, hafter⟩ := waiting_afterTurn hclock hnext
  have hmem : timer.toPending ∈ clock.waiting := List.mem_map_of_mem (next?_spec hnext).1
  intro t ht period hsome
  rcases List.mem_append.mp (hafter.subset ht) with ht | ht
  · obtain ⟨p, hp, rfl⟩ := Option.map_eq_some_iff.mp (Option.mem_toList.mp ht)
    exact hperiodic timer.toPending hmem period (hp.trans (by rw [← hp]; exact hsome))
  · exact hperiodic t (hbefore.symm.subset (List.mem_cons_of_mem _ ht)) period hsome

include htarget

/-- A turn counts for one. -/
theorem firingsBy_afterTurn :
    clock.firingsBy target = (clock.afterTurn timer).firingsBy target + 1 := by
  obtain ⟨others, hbefore, hafter⟩ := waiting_afterTurn hclock hnext
  have hcount := PendingTimer.firingsBy_of_isDue htarget (next?_dueAt_le hnext)
    (hperiodic timer.toPending (List.mem_map_of_mem (next?_spec hnext).1))
  have hsum := (hbefore.map fun t => t.firingsBy target).sum_eq
  have hsum' := (hafter.map fun t => t.firingsBy target).sum_eq
  rw [firingsBy, firingsBy, hsum, hsum', List.map_cons, List.sum_cons, hcount]
  cases timer.toPending.nextTurn? with
  | none => exact Nat.add_comm _ _
  | some t =>
      rw [Option.toList_some, List.singleton_append, List.map_cons, List.sum_cons]
      exact Nat.add_right_comm _ _ _

/-- After a turn the rest of the time passes as it would have. -/
theorem Passed.of_turn {journal journal' : List (Event TimerId)} {clock' : VirtualClock α}
    (h : Passed target (clock.afterTurn timer) (startEvent timer clock :: journal) clock' journal') :
    Passed target clock journal clock' journal' := by
  obtain ⟨others, hbefore, hafter⟩ := waiting_afterTurn hclock hnext
  have hmem : timer.toPending ∈ clock.waiting := List.mem_map_of_mem (next?_spec hnext).1
  have hdue : timer.toPending.dueAt ≤ target := next?_dueAt_le hnext
  have hpassed := PendingTimer.passed_of_isDue htarget hdue (hperiodic timer.toPending hmem)
  refine ⟨h.now, h.lastId.trans ?_, h.tidy, ?_, fun id => ?_⟩
  · rw [VirtualClock.afterTurn, finish_lastId, start_lastId]
  · refine h.waiting.trans ((hafter.filterMap _).trans (.trans ?_ (hbefore.filterMap _).symm))
    rw [List.filterMap_append, List.filterMap_cons, hpassed]
    cases timer.toPending.nextTurn? with
    | none => exact .refl _
    | some t =>
        rw [Option.toList_some, List.filterMap_cons, Option.bind_some]
        cases t.passed target <;> exact .refl _
  · have hevent : hasFired id (startEvent timer clock :: journal) = true ↔
        timer.id = id ∨ hasFired id journal = true := by
      simp [hasFired, startEvent, Event.isFiringOf]
    rw [h.fired, hevent]
    constructor
    · rintro ((hid | hfired) | ⟨t, ht, hid, hle⟩)
      · exact Or.inr ⟨timer.toPending, hmem, hid, hdue⟩
      · exact Or.inl hfired
      · rcases List.mem_append.mp (hafter.subset ht) with ht | ht
        · obtain ⟨period, -, rfl⟩ := Option.map_eq_some_iff.mp (Option.mem_toList.mp ht)
          exact Or.inr ⟨timer.toPending, hmem, hid, hdue⟩
        · exact Or.inr ⟨t, hbefore.symm.subset (List.mem_cons_of_mem _ ht), hid, hle⟩
    · rintro (hfired | ⟨t, ht, hid, hle⟩)
      · exact Or.inl (Or.inr hfired)
      · rcases List.mem_cons.mp (hbefore.subset ht) with rfl | ht
        · exact Or.inl (Or.inl hid)
        · exact Or.inr ⟨t, hafter.symm.subset (List.mem_append_right _ ht), hid, hle⟩

end Due

section Turns

variable (goal : Goal) (call : α → ω → ω) (left ran : Nat) (world : ω) (journal : List (Event TimerId))

theorem turns_none (h : clock.next? goal.deadline = none) :
    turns call goal left ran clock world journal =
      ⟨clock.reach goal, world, reachEvents goal ran clock ++ journal, .ok ran⟩ := by
  unfold turns
  rw [h]

theorem turns_limited (h : clock.next? goal.deadline = some timer) :
    turns call goal 0 ran clock world journal =
      ⟨clock, world, journal, .error (.stepLimitExceeded ran)⟩ := by
  unfold turns
  rw [h]

theorem turns_turn (h : clock.next? goal.deadline = some timer) :
    turns call goal (left + 1) ran clock world journal =
      turns call goal left (ran + 1) (clock.afterTurn timer) (call timer.callback world)
        (startEvent timer clock :: journal) := by
  rw [turns, h]
  rfl

/-- A drain does not look at the journal, and only adds to it. -/
theorem turns_append (before : List (Event TimerId)) :
    turns call goal left ran clock world (journal ++ before) =
      { turns call goal left ran clock world journal with
        journal := (turns call goal left ran clock world journal).journal ++ before } := by
  induction left, ran, clock, world, journal using turns.induct call goal with
  | case1 left ran clock world journal hnext =>
      rw [turns_none goal call left ran world _ hnext, turns_none goal call left ran world _ hnext,
        List.append_assoc]
  | case2 ran clock world journal timer hnext =>
      rw [turns_limited goal call ran world _ hnext, turns_limited goal call ran world _ hnext]
  | case3 ran clock world journal timer hnext left ih =>
      rw [turns_turn goal call left ran world _ hnext, turns_turn goal call left ran world _ hnext]
      exact ih

theorem drain_journal (limit : Nat) (request : Drain) : drain limit call request clock world journal =
    { drain limit call request clock world [] with
      journal := (drain limit call request clock world []).journal ++ journal } := by
  unfold drain
  cases Goal.of request clock.now with
  | error e => rfl
  | ok goal => exact turns_append goal call _ _ _ [] journal

/-- A drain that succeeds has brought the clock to its target. -/
theorem le_now_of_turns {delta count : Nat}
    (h : (turns call (.advance delta target) left ran clock world journal).result = .ok count) :
    target ≤ (turns call (.advance delta target) left ran clock world journal).clock.now := by
  induction left, ran, clock, world, journal using turns.induct call (.advance delta target) with
  | case1 left ran clock world journal hnext =>
      rw [turns_none (.advance delta target) call left ran world journal hnext]
      exact Nat.le_max_right _ _
  | case2 ran clock world journal timer hnext =>
      rw [turns_limited (.advance delta target) call ran world journal hnext] at h
      cases h
  | case3 ran clock world journal timer hnext left ih =>
      rw [turns_turn (.advance delta target) call left ran world journal hnext] at h ⊢
      exact ih h

/-- A drain until `target` runs as many callbacks as the queue counts, unless
they are more than it may run. -/
theorem turns_passed (delta : Nat) (htarget : target < Duration.lastInstant)
    (hclock : Tidy ⟨clock, []⟩) (hperiodic : clock.Periodic) (hnow : clock.now ≤ target) :
    let drained := turns call (.advance delta target) left ran clock world journal
    (clock.firingsBy target ≤ left →
      drained.result = .ok (ran + clock.firingsBy target) ∧
        Passed target clock journal drained.clock drained.journal) ∧
    (left < clock.firingsBy target → drained.result = .error (.stepLimitExceeded (ran + left))) := by
  induction left, ran, clock, world, journal using turns.induct call (.advance delta target) with
  | case1 left ran clock world journal hnext =>
      obtain ⟨hcount, hpassed⟩ :=
        Passed.of_none delta ran journal (Nat.le_of_lt htarget) hclock hnow hnext
      rw [turns_none (.advance delta target) call left ran world journal hnext, hcount]
      exact ⟨fun _ => ⟨rfl, hpassed⟩, fun h => absurd h (Nat.not_lt_zero _)⟩
  | case2 ran clock world journal timer hnext =>
      have hcount := firingsBy_afterTurn htarget hclock hperiodic hnext
      rw [turns_limited (.advance delta target) call ran world journal hnext, hcount]
      exact ⟨fun h => absurd h (Nat.not_succ_le_zero _), fun _ => rfl⟩
  | case3 ran clock world journal timer hnext left ih =>
      have hcount := firingsBy_afterTurn htarget hclock hperiodic hnext
      have hnow' : (clock.afterTurn timer).now ≤ target := by
        rw [VirtualClock.afterTurn, finish_now]
        exact Nat.max_le.mpr ⟨hnow, next?_dueAt_le hnext⟩
      rw [← VirtualClock.afterTurn] at ih
      obtain ⟨hwithin, hpast⟩ := ih
        (tidy_afterTurn hclock hnext (.advance delta target) (Nat.le_of_lt htarget) rfl)
        (hperiodic.afterTurn hclock hnext) hnow'
      rw [turns_turn (.advance delta target) call left ran world journal hnext, hcount]
      refine ⟨fun hle => ?_, fun hlt => ?_⟩
      · obtain ⟨hresult, hpassed⟩ := hwithin (Nat.le_of_succ_le_succ hle)
        refine ⟨?_, hpassed.of_turn htarget hclock hperiodic hnext⟩
        rw [hresult, Nat.add_right_comm, Nat.add_assoc]
      · rw [hpast (Nat.lt_of_succ_lt_succ hlt), Nat.add_right_comm, Nat.add_assoc]

end Turns

end VirtualClock

end PageTimers
