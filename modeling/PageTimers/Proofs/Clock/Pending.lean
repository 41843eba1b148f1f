/-
# Pending timers are listed in the order in which they fire

Which timer comes first is worked out in two ways.  `pending` sorts the queue;
`next?` leaves out what is not due and looks for the least of the rest, in a
queue that is in no order at all.  They agree as long as places are distinct,
which they are in every reachable state: then the order of timers is strict,
a list of timers has one sorted form, and

    next? deadline  =  the head of `pending`, if that is due

(`next?_eq_head?`).  Starting the head leaves the tail (`pending_start`), so a
drain of one-shot timers that leave each other alone goes through the list
from front to back (`fires_pending`), wherever in a program it is made.
-/
import PageTimers.Proofs.Clock.Poised
import PageTimers.Proofs.Clock.Uniqueness

namespace PageTimers

namespace QueuedTimer

variable {α : Type} {s t u : QueuedTimer α}

instance : Decidable (s.Before t) :=
  inferInstanceAs (Decidable (s.dueAt < t.dueAt ∨ s.dueAt = t.dueAt ∧ s.order < t.order))

theorem Before.asymm (h : s.Before t) : ¬ t.Before s := by
  unfold Before at *
  omega

end QueuedTimer

namespace VirtualClock

variable {α : Type} {clock : VirtualClock α} {timer : QueuedTimer α} {later : List (QueuedTimer α)}

theorem pending_perm (clock : VirtualClock α) : clock.pending.Perm clock.queue :=
  List.mergeSort_perm _ _

theorem pending_congr {clock' : VirtualClock α} (h : clock'.queue = clock.queue) :
    clock'.pending = clock.pending := by
  rw [pending, pending, h]

section Orders

variable (horders : (clock.queue.map (·.order)).Nodup)

include horders

theorem before_pending : clock.pending.Pairwise QueuedTimer.Before := by
  have hnodup : (clock.pending.map (·.order)).Nodup :=
    (clock.pending_perm.map _).nodup_iff.mpr horders
  have hne : clock.pending.Pairwise fun s t => s.order ≠ t.order := List.pairwise_map.mp hnodup
  exact (clock.sorted_pending.and hne).imp fun h => .of_precedes h.1 h.2

/-- There is no other way to put them into that order. -/
theorem pending_unique {timers : List (QueuedTimer α)} (hsorted : timers.Pairwise QueuedTimer.Before)
    (hperm : timers.Perm clock.queue) : clock.pending = timers := by
  refine List.Perm.eq_of_pairwise (fun s t _ _ h h' => absurd h' h.asymm)
    (before_pending horders) hsorted ?_
  exact clock.pending_perm.trans hperm.symm

/-- The timer that a drain takes is the first that waits, if it is due. -/
theorem next?_eq_head? (deadline : Option Nat) :
    clock.next? deadline = clock.pending.head?.filter (·.isDue deadline) := by
  cases hnext : clock.next? deadline with
  | some t =>
      rw [head?_pending horders hnext]
      exact (Option.filter_some_pos (next?_spec hnext).2.1).symm
  | none =>
      symm
      rw [Option.filter_eq_none_iff]
      intro t ht
      have hqueue : t ∈ clock.queue := clock.pending_perm.subset (List.mem_of_mem_head? ht)
      rw [next?_eq_none_iff.mp hnext t hqueue]
      exact Bool.false_ne_true

/-- When the first timer is started, the others wait in the order they did. -/
theorem pending_start (h : clock.pending = timer :: later) : (clock.start timer).pending = later := by
  have hmem : timer ∈ clock.queue := by
    refine clock.pending_perm.subset ?_
    rw [h]
    exact List.mem_cons_self
  have hperm : clock.queue.Perm (timer :: (clock.start timer).queue) :=
    perm_filter_order hmem horders
  have hsorted := before_pending horders
  rw [h] at hsorted
  refine pending_unique (horders.sublist (List.filter_sublist.map _)) hsorted.of_cons ?_
  have hlist : (timer :: later).Perm (timer :: (clock.start timer).queue) :=
    (List.Perm.trans (.of_eq h.symm) clock.pending_perm).trans hperm
  exact hlist.cons_inv

end Orders

/-- A one-shot timer does not come back. -/
theorem afterTurn_queue_of_once (h : timer.isOnce = true) :
    (clock.afterTurn timer).queue = (clock.start timer).queue := by
  rw [afterTurn, finish, Option.isNone_iff_eq_none.mp h]
  rfl

end VirtualClock

/-! ## Flushing one-shot timers -/

namespace World

variable {limit : Nat} {world : ClockWorld} {timer : QueuedTimer (Handler TimerId)}
  {first later : List (QueuedTimer (Handler TimerId))} {deadline : Option Nat}

/-- The timers whose callbacks were started, in order. -/
def startedIds (world : ClockWorld) : List (Option TimerId) := (world.starts.map (·.1.id)).reverse

/-- Only one-shot timers wait, and their callbacks will leave all timers alone. -/
structure Undisturbed (world : ClockWorld) : Prop where
  orders : (world.provider.queue.map (·.order)).Nodup
  once : ∀ t ∈ world.provider.queue, t.isOnce = true
  leaves : ∀ t ∈ world.provider.queue, ∀ a ∈ t.script, a.leavesTimers = true

namespace Undisturbed

theorem undrained (h : Undisturbed world) (hnext : world.provider.next? deadline = some timer) :
    ∀ a ∈ timer.script, a.isDrain = false := fun a ha =>
  Action.isDrain_of_leavesTimers (h.leaves timer (VirtualClock.next?_spec hnext).1 a ha)

theorem queue_turn (h : Undisturbed world) (limit : Nat) (ht : timer ∈ world.provider.queue) :
    (world.turn limit timer).provider.queue = (world.provider.start timer).queue := by
  rw [turn_of_leavesTimers (h.leaves timer ht), VirtualClock.afterTurn_queue_of_once (h.once timer ht)]

theorem undraining : Undraining limit Undisturbed where
  undrained h hnext := h.undrained hnext
  turn h hnext := by
    have hqueue := h.queue_turn limit (VirtualClock.next?_spec hnext).1
    have hsub : ∀ t ∈ (World.turn limit _ _).provider.queue, t ∈ _ := fun t ht =>
      ((VirtualClock.mem_start_queue _ _).mp (hqueue ▸ ht)).1
    refine ⟨?_, fun t ht => h.once t (hsub t ht), fun t ht => h.leaves t (hsub t ht)⟩
    rw [hqueue]
    exact h.orders.sublist (List.filter_sublist.map _)

/-- A flush takes them as they are listed, as long as their callbacks return. -/
theorem fires_pending (h : Undisturbed world) (limit : Nat)
    (hpending : world.provider.pending = first ++ later) (hreturns : ∀ t ∈ first, t.Returns) :
    Fires limit none world first ∧ Undisturbed (world.turns limit first) ∧
      (world.turns limit first).provider.pending = later ∧
      (world.turns limit first).startedIds = world.startedIds ++ first.map (some ·.id) := by
  induction first generalizing world with
  | nil => exact ⟨.nil world, h, hpending, (List.append_nil _).symm⟩
  | cons timer first ih =>
      obtain ⟨hreturn, hreturns⟩ := List.forall_mem_cons.mp hreturns
      have hnext : world.provider.next? none = some timer := by
        rw [VirtualClock.next?_eq_head? h.orders, hpending]
        rfl
      have hmem : timer ∈ world.provider.queue := (VirtualClock.next?_spec hnext).1
      have hlist : (world.turn limit timer).provider.pending = first ++ later := by
        rw [VirtualClock.pending_congr (h.queue_turn limit hmem)]
        exact VirtualClock.pending_start h.orders hpending
      obtain ⟨hfires, hafter, hlater, hstarted⟩ := ih (undraining.turn h hnext) hlist hreturns
      have hfirst : (world.turn limit timer).startedIds = world.startedIds ++ [some timer.id] := by
        rw [startedIds, starts_turn (h.undrained hnext), startedIds]
        exact List.reverse_cons
      refine ⟨.cons hnext hreturn hfires, hafter, hlater, ?_⟩
      rw [turns, List.foldl_cons, ← turns, hstarted, hfirst, List.append_assoc]
      rfl

/-- The first that throws is started, and those after it still wait. -/
theorem thrown_pending (h : Undisturbed world) (limit : Nat)
    (hpending : world.provider.pending = timer :: later) :
    let thrown := ((world.startCallback timer).enact limit (.callback (some timer.id))
      (timer.script.takeWhile fun a => !a.isThrow)).throwCallback
    thrown.provider.pending = later ∧ thrown.startedIds = world.startedIds ++ [some timer.id] := by
  intro thrown
  have hmem : timer ∈ world.provider.queue := by
    refine world.provider.pending_perm.subset ?_
    rw [hpending]
    exact List.mem_cons_self
  have hleaves : ∀ a ∈ timer.script.takeWhile fun a => !a.isThrow, a.leavesTimers = true :=
    fun a ha => h.leaves timer hmem a (List.takeWhile_subset _ ha)
  constructor
  · refine Eq.trans (VirtualClock.pending_congr ?_) (VirtualClock.pending_start h.orders hpending)
    show (World.enact _ _ _ _).provider.queue = _
    rw [enact_of_leavesTimers hleaves]
    rfl
  · have hstarts : thrown.starts =
        (timer.firing, (world.provider.start timer).now) :: world.starts :=
      starts_enact fun a ha => Action.isDrain_of_leavesTimers (hleaves a ha)
    rw [startedIds, hstarts]
    exact List.reverse_cons

end Undisturbed

end World

namespace Machine

variable {limit left ran : Nat} {world : ClockWorld} {caller : Caller TimerId}
  {rest : List (Action TimerId)} {first later : List (QueuedTimer (Handler TimerId))}
  {timer : QueuedTimer (Handler TimerId)}
  {stack : List (Waiting (VirtualClock.UnderWay (Handler TimerId)) TimerId ×
    VirtualClock.UnderWay (Handler TimerId))}

/-- The caller waits for a flush. -/
def waitsForFlush (caller : Caller TimerId) (rest : List (Action TimerId)) :
    Waiting (VirtualClock.UnderWay (Handler TimerId)) TimerId :=
  ⟨caller, .drain .flush, .drain .flush, false, rest⟩

theorem leads_flush : Leads (VirtualClock.provider limit)
    ⟨world, .run caller (.drain .flush :: rest), stack⟩
    (continuing limit (waitsForFlush caller rest) stack .flush (VirtualClock.clampLimit limit) 0
      world) :=
  leads_step _

theorem continuing_flushed (hnext : world.provider.next? none = none) :
    continuing limit (waitsForFlush caller rest) stack .flush left ran world =
      ⟨world.record (.did caller (.drain .flush) (.answered (.ok (.ran ran)))), .run caller rest,
        stack⟩ := by
  have hproceed : VirtualClock.proceed .flush left ran world.provider =
      ⟨[], world.provider, .answer (.ok (.ran ran))⟩ := by
    rw [VirtualClock.proceed, VirtualClock.Goal.deadline, hnext]
    rfl
  rw [continuing, hproceed]
  rfl

/-- A flush comes through the timers that wait as they are listed. -/
theorem leads_pending (caller : Caller TimerId) (rest : List (Action TimerId))
    (stack : List (Waiting (VirtualClock.UnderWay (Handler TimerId)) TimerId ×
      VirtualClock.UnderWay (Handler TimerId))) (h : world.Undisturbed)
    (hpending : world.provider.pending = first ++ later) (hreturns : ∀ t ∈ first, t.Returns)
    (hle : first.length ≤ VirtualClock.clampLimit limit) :
    Leads (VirtualClock.provider limit) ⟨world, .run caller (.drain .flush :: rest), stack⟩
      (continuing limit (waitsForFlush caller rest) stack .flush
        (VirtualClock.clampLimit limit - first.length) first.length (world.turns limit first)) := by
  have hturns : Leads (VirtualClock.provider limit)
      (continuing limit (waitsForFlush caller rest) stack .flush
        (VirtualClock.clampLimit limit - first.length + first.length) 0 world)
      (continuing limit (waitsForFlush caller rest) stack .flush
        (VirtualClock.clampLimit limit - first.length) (0 + first.length)
        (world.turns limit first)) :=
    continuing_turns World.Undisturbed.undraining h (h.fires_pending limit hpending hreturns).1
  rw [Nat.sub_add_cancel hle, Nat.zero_add] at hturns
  exact leads_flush.trans hturns

/-- With enough room it answers how many they were, and nothing waits any more. -/
theorem leads_flushed (h : world.Undisturbed) (hreturns : ∀ t ∈ world.provider.queue, t.Returns)
    (hle : world.provider.queue.length ≤ VirtualClock.clampLimit limit) :
    ∃ after : ClockWorld,
      Leads (VirtualClock.provider limit) ⟨world, .run caller (.drain .flush :: rest), stack⟩
        ⟨after, .run caller rest, stack⟩ ∧
      after.startedIds = world.startedIds ++ world.provider.pending.map (some ·.id) ∧
      after.log.head? =
        some (.did caller (.drain .flush) (.answered (.ok (.ran world.provider.pending.length)))) ∧
      after.provider.queue = [] := by
  have hlist : world.provider.pending = world.provider.pending ++ [] := (List.append_nil _).symm
  have hreturns : ∀ t ∈ world.provider.pending, t.Returns := fun t ht =>
    hreturns t (world.provider.pending_perm.subset ht)
  rw [← world.provider.pending_perm.length_eq] at hle
  obtain ⟨-, -, hnone, hstarted⟩ := h.fires_pending limit hlist hreturns
  have hempty : (world.turns limit world.provider.pending).provider.queue = [] := by
    have hperm := (world.turns limit world.provider.pending).provider.pending_perm
    rw [hnone] at hperm
    exact hperm.nil_eq.symm
  have hquiet : (world.turns limit world.provider.pending).provider.next? none = none := by
    rw [VirtualClock.next?, hempty]
    rfl
  have hleads := leads_pending caller rest stack h hlist hreturns hle
  rw [continuing_flushed hquiet] at hleads
  exact ⟨_, hleads, hstarted, rfl, hempty⟩

/-- Where a callback throws, it ends with that one. -/
theorem leads_flush_thrown (h : world.Undisturbed)
    (hpending : world.provider.pending = first ++ timer :: later)
    (hreturns : ∀ t ∈ first, t.Returns) (hthrows : ¬ timer.Returns)
    (hle : world.provider.queue.length ≤ VirtualClock.clampLimit limit) :
    ∃ after : ClockWorld,
      Leads (VirtualClock.provider limit) ⟨world, .run caller (.drain .flush :: rest), stack⟩
        ⟨after, .unwind, stack⟩ ∧
      after.startedIds = world.startedIds ++ (first ++ [timer]).map (some ·.id) ∧
      after.provider.pending = later := by
  obtain ⟨-, hafter, hrest, hstarted⟩ := h.fires_pending limit hpending hreturns
  have hnext : (world.turns limit first).provider.next? none = some timer := by
    rw [VirtualClock.next?_eq_head? hafter.orders, hrest]
    rfl
  have hlt : first.length < VirtualClock.clampLimit limit := by
    rw [← world.provider.pending_perm.length_eq, hpending, List.length_append,
      List.length_cons] at hle
    omega
  have hleads := leads_pending caller rest stack h hpending hreturns
    (Nat.le_of_lt hlt)
  obtain ⟨left, hleft⟩ := Nat.exists_eq_succ_of_ne_zero (Nat.sub_ne_zero_of_lt hlt)
  rw [hleft] at hleads
  obtain ⟨hlater, hlast⟩ := hafter.thrown_pending limit hrest
  refine ⟨_, hleads.trans (continuing_thrown hnext (hafter.undrained hnext) hthrows), ?_, hlater⟩
  rw [hlast, hstarted, List.map_append, List.append_assoc]
  rfl

end Machine

namespace ClockSession

theorem orders_nodup (limit : Nat) (globals : Globals) (actions : List (Action TimerId)) (n : Nat) :
    (((fresh globals actions).after limit n).clock.queue.map (·.order)).Nodup := by
  have horders := (accounted_after limit globals actions n).tidy.orders
  rw [VirtualClock.held, List.map_append] at horders
  exact (List.nodup_append.mp horders).1

/-- **Pending timers are listed in firing order.**  In every state of every
run, in the middle of callbacks and after any failure: the list holds the timers
of the queue, by due time and then by place, strictly; what a drain takes next is
the first of them if that is due by its deadline, and nothing otherwise.  And if
only one-shot timers wait whose callbacks leave all timers alone, then a flush
made there, by whomever, with a limit that allows as many, goes through the list
from front to back.  If the callbacks return, it fires exactly the timers of the
list in its order, answers how many they were and leaves nothing waiting; where
one throws, it ends with that one, and those behind it in the list still wait. -/
theorem pending_in_firing_order (limit : Nat) (globals : Globals) (actions : List (Action TimerId))
    (n : Nat) :
    let s := (fresh globals actions).after limit n
    let waiting := s.clock.pending
    waiting.Perm s.clock.queue ∧
    waiting.Pairwise QueuedTimer.Before ∧
    (∀ deadline, s.clock.next? deadline = waiting.head?.filter (·.isDue deadline)) ∧
    ((∀ t ∈ s.clock.queue, t.isOnce = true ∧ ∀ a ∈ t.script, a.leavesTimers = true) →
      s.clock.queue.length ≤ VirtualClock.clampLimit limit →
      ∀ (caller : Caller TimerId) (rest : List (Action TimerId)),
        let flushing : ClockMachine :=
          ⟨s.machine.world, .run caller (.drain .flush :: rest), s.machine.stack⟩
        ((∀ t ∈ s.clock.queue, t.Returns) → ∃ (fuel : Nat) (world : ClockWorld),
          flushing.run (VirtualClock.provider limit) fuel =
            ⟨world, .run caller rest, s.machine.stack⟩ ∧
          world.startedIds = s.machine.world.startedIds ++ waiting.map (some ·.id) ∧
          world.log.head? =
            some (.did caller (.drain .flush) (.answered (.ok (.ran waiting.length)))) ∧
          world.provider.queue = []) ∧
        (∀ first timer later, waiting = first ++ timer :: later → (∀ t ∈ first, t.Returns) →
          ¬ timer.Returns → ∃ (fuel : Nat) (world : ClockWorld),
            flushing.run (VirtualClock.provider limit) fuel = ⟨world, .unwind, s.machine.stack⟩ ∧
            world.startedIds =
              s.machine.world.startedIds ++ (first ++ [timer]).map (some ·.id) ∧
            world.provider.pending = later)) := by
  intro s waiting
  have horders : (s.clock.queue.map (·.order)).Nodup := orders_nodup limit globals actions n
  have hperm : waiting.Perm s.clock.queue := s.clock.pending_perm
  refine ⟨hperm, VirtualClock.before_pending horders, VirtualClock.next?_eq_head? horders,
    fun hqueue hlimit caller rest => ?_⟩
  have hworld : s.machine.world.Undisturbed :=
    ⟨horders, fun t ht => (hqueue t ht).1, fun t ht => (hqueue t ht).2⟩
  refine ⟨fun hreturns => ?_, fun first timer later hwaiting hreturns hthrows => ?_⟩
  · obtain ⟨after, ⟨fuel, hfuel⟩, hafter⟩ :=
      Machine.leads_flushed hworld hreturns hlimit
    exact ⟨0 + fuel, after, hfuel 0, hafter⟩
  · obtain ⟨after, ⟨fuel, hfuel⟩, hafter⟩ :=
      Machine.leads_flush_thrown hworld hwaiting hreturns hthrows hlimit
    exact ⟨0 + fuel, after, hfuel 0, hafter⟩

/-- The second timer is due first, and the third is due with the first. -/
def threeOnce : List (Action TimerId) :=
  [.schedule .page .once (.ofMillis 20) none .idle,
    .schedule .page .once (.ofMillis 10) none (.mk false [] [.now]),
    .schedule .provider .once (.ofMillis 20) none .idle]

/-- With room for three, a flush fires them in the order in which they are listed. -/
theorem threeOnce_flushed :
    let s := (fresh .empty threeOnce).after 3 9
    s.clock.queue.map (·.id.value) = [3, 2, 1] ∧
    s.clock.pending.map (·.id.value) = [2, 1, 3] ∧
    ∃ (fuel : Nat) (world : ClockWorld),
      (⟨s.machine.world, .run .harness [.drain .flush], s.machine.stack⟩ : ClockMachine).run
          (VirtualClock.provider 3) fuel = ⟨world, .run .harness [], s.machine.stack⟩ ∧
      world.startedIds.map (·.map (·.value)) = [some 2, some 1, some 3] ∧
      world.provider.queue = [] := by
  intro s
  have hids : s.clock.pending.map (·.id.value) = [2, 1, 3] := by
    obtain ⟨t, u, v, hqueue, hsorted⟩ : ∃ t u v, s.clock.queue = [v, u, t] ∧
        [u, t, v].Pairwise QueuedTimer.Before := ⟨_, _, _, rfl, by decide +kernel⟩
    rw [VirtualClock.pending_unique (orders_nodup 3 .empty threeOnce 9) hsorted
      (hqueue ▸ List.perm_append_singleton v [u, t])]
    cases hqueue
    decide +kernel
  obtain ⟨-, -, -, hflush⟩ := pending_in_firing_order 3 .empty threeOnce 9
  have honce : ∀ t ∈ s.clock.queue, t.isOnce = true ∧ ∀ a ∈ t.script, a.leavesTimers = true := by
    decide +kernel
  have hreturns : ∀ t ∈ s.clock.queue, ∀ a ∈ t.script, a.isThrow = false := by decide +kernel
  obtain ⟨fuel, world, hrun, hstarted, -, hempty⟩ :=
    (hflush honce (by decide +kernel) .harness []).1 hreturns
  refine ⟨by decide +kernel, hids, fuel, world, hrun, ?_, hempty⟩
  rw [hstarted]
  calc _ = (s.clock.pending.map (·.id.value)).map some := by
        simp only [List.map_append, List.map_map]
        rfl
    _ = _ := by rw [hids]; rfl

/-- The timer that is due first throws. -/
def throwerFirst : List (Action TimerId) :=
  [.schedule .page .once (.ofMillis 10) none (.mk false [] [.throw]),
    .schedule .page .once (.ofMillis 20) none .idle]

/-- However long its flush goes on, the second timer is not fired. -/
theorem thrower_ends_flush :
    let s := (fresh .empty throwerFirst).after 2 6
    let flushing : ClockMachine :=
      ⟨s.machine.world, .run .harness [.drain .flush], s.machine.stack⟩
    (∀ t ∈ s.clock.queue, t.isOnce = true ∧ ∀ a ∈ t.script, a.leavesTimers = true) ∧
    s.clock.queue.length ≤ VirtualClock.clampLimit 2 ∧
    ∀ fuel, (flushing.run (VirtualClock.provider 2) fuel).world.startedIds ≠
      s.machine.world.startedIds ++ s.clock.pending.map (some ·.id) := by
  intro s flushing
  have hshort (fuel : Nat) :
      (flushing.run (VirtualClock.provider 2) fuel).world.startedIds.length ≤ 1 := by
    have hended : (flushing.run (VirtualClock.provider 2) 5).ended?.isSome := by decide +kernel
    rcases Nat.lt_or_ge fuel 5 with hfuel | hfuel
    · have hbefore : ∀ k < 5,
          (flushing.run (VirtualClock.provider 2) k).world.startedIds.length ≤ 1 := by
        decide +kernel
      exact hbefore fuel hfuel
    · obtain ⟨more, rfl⟩ := Nat.exists_eq_add_of_le hfuel
      rw [Machine.run_add, Machine.run_of_ended hended]
      decide +kernel
  refine ⟨by decide +kernel, by decide +kernel, fun fuel h => ?_⟩
  have hqueue : s.clock.queue.length = 2 := by decide +kernel
  have hlength := hshort fuel
  rw [h, List.length_append, List.length_map, s.clock.pending_perm.length_eq, hqueue] at hlength
  omega

end ClockSession

end PageTimers
