/-
# Drains whose callbacks leave the clock alone

A callback that asks the provider for nothing and does not throw
(`Action.isPassive`) cannot be told from no callback at all, as far as the
clock goes.  So a drain of such callbacks is what the clock does by itself:
the machine starts the timers that `Takes` lists, and leaves the clock where
`Takes` leaves it (`Takes.fires`).

Between two drains a clock is *poised*: nothing that waits is overdue.  Then
each timer fires at its due time, a drain to a given time comes to an end
(`Poised.exists_takes`), and it leaves the clock poised again.
-/
import PageTimers.Proofs.Clock.StepLimit
import PageTimers.Proofs.Clock.Turnover

namespace PageTimers

namespace VirtualClock

variable {α : Type} {clock clock' : VirtualClock α} {goal : Goal} {limit : Nat}
  {timer : QueuedTimer α} {timers : List (QueuedTimer α)}

/-- A clock between two drains. -/
structure Poised (clock : VirtualClock α) : Prop where
  tidy : Tidy ⟨clock, []⟩
  /-- Nothing is overdue. -/
  within : Within clock.now ⟨clock, []⟩
  periodic : clock.Periodic

namespace Poised

theorem fresh : Poised (.fresh : VirtualClock α) :=
  ⟨tidy_fresh, .fresh, fun _ h => absurd h List.not_mem_nil⟩

theorem orders (h : clock.Poised) : (clock.queue.map (·.order)).Nodup := by
  simpa [held] using h.tidy.orders

theorem le_dueAt (h : clock.Poised) {t : QueuedTimer α} (ht : t ∈ clock.queue) :
    clock.now ≤ t.dueAt :=
  (h.within.timers t (mem_held.mpr (Or.inl ht))).1

theorem schedule (h : clock.Poised) (kind : TimerKind) (callback : α) (delay : Duration) :
    (clock.schedule kind callback delay).2.Poised := by
  have hbeat : Beat False ⟨clock, []⟩ (.scheduled ⟨clock.lastId + 1⟩)
      ⟨(clock.schedule kind callback delay).2, []⟩ := .schedule kind callback delay
  refine ⟨h.tidy.beat hbeat, h.within.beat hbeat, ?_⟩
  refine List.forall_mem_cons.mpr ⟨fun period hperiod => ?_, h.periodic⟩
  cases kind with
  | once => cases hperiod
  | repeating =>
      cases hperiod
      exact Nat.le_max_right _ _

theorem cancel (h : clock.Poised) (id : TimerId) : (clock.cancel id).2.Poised := by
  have hbeat : Beat False ⟨clock, []⟩ (.cleared id (clock.cancel id).1) ⟨(clock.cancel id).2, []⟩ :=
    .cancel id
  refine ⟨h.tidy.beat hbeat, h.within.beat hbeat, fun t ht => ?_⟩
  obtain ⟨timer, htimer, rfl⟩ := List.mem_map.mp ht
  exact h.periodic _ (List.mem_map_of_mem ((mem_cancel_queue id clock).mp htimer).1)

section Goal

variable (h : clock.Poised) (hgoal : goal.InTime) (hdeadline : goal.deadline = some limit)

include h hgoal hdeadline

theorem afterTurn (hnext : clock.next? goal.deadline = some timer) :
    (clock.afterTurn timer).Poised := by
  have hnow : (clock.afterTurn timer).now = timer.dueAt := by
    rw [VirtualClock.afterTurn, finish_now]
    exact Nat.max_eq_right (h.le_dueAt (next?_spec hnext).1)
  have hfinish : Beat False ⟨clock.start timer, [⟨goal, 0, 0, timer⟩]⟩ (.returned timer)
      ⟨clock.afterTurn timer, []⟩ := .finish
  refine ⟨tidy_afterTurn h.tidy hnext goal hgoal rfl, ?_,
    h.periodic.afterTurn h.tidy (hdeadline ▸ hnext)⟩
  rw [hnow]
  exact (h.within.started (u := ⟨goal, 0, 0, timer⟩) hnext).beat hfinish

theorem reach (hnone : clock.next? goal.deadline = none) : (clock.reach goal).Poised := by
  have hbeat : Beat False ⟨clock, []⟩ (.reached (clock.reach goal).now) ⟨clock.reach goal, []⟩ :=
    .reach hnone hgoal (Or.inl rfl)
  have hwithin := h.within.beat hbeat
  refine ⟨h.tidy.beat hbeat, ⟨Nat.le_refl _, hwithin.now_le, fun t ht => ?_⟩, ?_⟩
  · refine ⟨?_, (hwithin.timers t ht).2⟩
    have hqueue : t ∈ clock.queue := by simpa [held] using ht
    have hlate : ¬ t.dueAt ≤ limit := by
      have hdue := next?_eq_none_iff.mp hnone t hqueue
      rw [hdeadline] at hdue
      exact of_decide_eq_false hdue
    have hle := h.le_dueAt hqueue
    cases goal with
    | advance delta target =>
        cases hdeadline
        exact Nat.max_le.mpr ⟨hle, by omega⟩
    | runDue now => exact hle
    | flush => cases hdeadline
  · intro t ht
    rw [waiting, reach_queue] at ht
    exact h.periodic t ht

/-- A drain to a given time comes to an end, after as many turns as the queue
tells. -/
theorem exists_takes (hlimit : limit < Duration.lastInstant) (hnow : clock.now ≤ limit) :
    ∃ timers clock', Takes goal clock timers clock' ∧ timers.length = clock.firingsBy limit := by
  induction hcount : clock.firingsBy limit using Nat.strongRecOn generalizing clock with
  | _ count ih =>
      cases hnext : clock.next? goal.deadline with
      | none =>
          have hzero : clock.firingsBy limit = 0 :=
            (Passed.of_none 0 0 [] (Nat.le_of_lt hlimit) h.tidy hnow (hdeadline ▸ hnext)).1
          exact ⟨[], clock, .quiet hnext, hzero.symm.trans hcount⟩
      | some timer =>
          have hdue : clock.next? (some limit) = some timer := hdeadline ▸ hnext
          have hturn := firingsBy_afterTurn hlimit h.tidy h.periodic hdue
          have hnow' : (clock.afterTurn timer).now ≤ limit := by
            rw [VirtualClock.afterTurn, finish_now]
            exact Nat.max_le.mpr ⟨hnow, next?_dueAt_le hdue⟩
          obtain ⟨timers, clock', htakes, hlength⟩ :=
            ih _ (by omega) (h.afterTurn hgoal hdeadline hnext) hnow' rfl
          refine ⟨timer :: timers, clock', .turn hnext htakes, ?_⟩
          rw [List.length_cons, hlength]
          omega

/-- What a drain takes leaves the clock poised. -/
theorem takes (htakes : Takes goal clock timers clock') : clock'.Poised := by
  induction htakes with
  | quiet => exact h
  | turn hnext _ ih => exact ih (h.afterTurn hgoal hdeadline hnext)

end Goal

end Poised

end VirtualClock

/-! ## Callbacks that leave the clock alone -/

/-- It asks the provider for nothing. -/
def Action.leavesTimers : Action TimerId → Bool
  | .schedule .. => false
  | .clear .. => false
  | .drain _ => false
  | _ => true

theorem Action.isDrain_of_leavesTimers {action : Action TimerId} (h : action.leavesTimers = true) :
    action.isDrain = false := by
  cases action with
  | drain _ => cases h
  | _ => rfl

/-- It asks the provider for nothing, and does not throw. -/
def Action.isPassive : Action TimerId → Bool
  | .schedule .. => false
  | .clear .. => false
  | .drain _ => false
  | .throw => false
  | _ => true

theorem Action.isPassive_drain (drain : Drain) : Action.isPassive (.drain drain) = false := rfl

theorem Action.leavesTimers_of_passive {action : Action TimerId} (h : action.isPassive = true) :
    action.leavesTimers = true := by
  cases action with
  | schedule | clear | drain => cases h
  | _ => rfl

namespace World

variable {limit : Nat} {caller : Caller TimerId} {world : ClockWorld} {action : Action TimerId}
  {actions : List (Action TimerId)} {timer : QueuedTimer (Handler TimerId)}
  {timers : List (QueuedTimer (Handler TimerId))} {goal : VirtualClock.Goal}
  {clock' : VirtualClock (Handler TimerId)} {latest : Nat} {deadline : Option Nat}

theorem act_of_leavesTimers (h : action.leavesTimers = true) :
    (act limit caller world action).provider = world.provider := by
  simp only [act, Machine.step]
  cases hplan : Machine.plan (VirtualClock.provider limit) world caller action with
  | throw => rfl
  | finish result world' => exact (Machine.plan_finish hplan).1
  | ask request watched =>
      rcases Machine.plan_ask hplan with ⟨_, _, _, _, _, rfl, -, -⟩ | ⟨_, _, _, _, rfl, -, -, -⟩ |
        ⟨_, rfl, -, -⟩ <;> cases h

theorem enact_of_leavesTimers (h : ∀ a ∈ actions, a.leavesTimers = true) :
    (enact limit caller world actions).provider = world.provider := by
  induction actions generalizing world with
  | nil => rfl
  | cons action actions ih =>
      refine (ih fun a ha => h a (List.mem_cons_of_mem _ ha)).trans ?_
      exact act_of_leavesTimers (h action List.mem_cons_self)

/-- All that is left of a turn is what the clock does in it. -/
theorem turn_of_leavesTimers (h : ∀ a ∈ timer.script, a.leavesTimers = true) :
    (world.turn limit timer).provider = world.provider.afterTurn timer := by
  rw [turn, endCallback, enact_of_leavesTimers h]
  rfl

section Obeys

variable (hobeys : world.Obeys Action.isPassive) (hnext : world.provider.next? deadline = some timer)

include hobeys hnext

theorem turn_of_passive : (world.turn limit timer).provider = world.provider.afterTurn timer :=
  turn_of_leavesTimers fun a ha => Action.leavesTimers_of_passive (hobeys.script hnext a ha).1

theorem returns_of_passive : timer.Returns := by
  intro a ha
  have hpassive := (hobeys.script hnext a ha).1
  cases a with
  | throw => cases hpassive
  | _ => rfl

end Obeys

end World

namespace VirtualClock

variable {limit latest : Nat} {world : ClockWorld} {timers : List (QueuedTimer (Handler TimerId))}
  {clock clock' : VirtualClock (Handler TimerId)} {goal : Goal}

/-- A drain of such callbacks starts the timers that the clock takes, each at
its due time. -/
theorem Takes.fires (limit : Nat) (world : ClockWorld) (h : Takes goal clock timers clock')
    (hworld : world.provider = clock) (hobeys : world.Obeys Action.isPassive)
    (hclock : clock.Poised) (hgoal : goal.InTime) (hdeadline : goal.deadline = some latest) :
    World.Fires limit goal.deadline world timers ∧
      (world.turns limit timers).provider = clock' ∧
      (world.turns limit timers).starts =
        (timers.map fun t => (t.firing, t.dueAt)).reverse ++ world.starts := by
  induction h generalizing world with
  | quiet => exact ⟨.nil _, hworld, rfl⟩
  | @turn clock clock' timer timers hnext _ ih =>
      subst hworld
      have hdrain := hobeys.undrained Action.isPassive_drain hnext
      obtain ⟨hfires, hprovider, hstarts⟩ := ih _ (World.turn_of_passive hobeys hnext)
        (hobeys.turn Action.isPassive_drain hnext) (hclock.afterTurn hgoal hdeadline hnext)
      refine ⟨.cons hnext (World.returns_of_passive hobeys hnext) hfires, hprovider, ?_⟩
      have hnow : max world.provider.now timer.dueAt = timer.dueAt :=
        Nat.max_eq_right (hclock.le_dueAt (next?_spec hnext).1)
      rw [World.starts_turn hdrain, hnow] at hstarts
      rw [List.map_cons, List.reverse_cons, List.append_assoc]
      exact hstarts

end VirtualClock

namespace Turn

variable {limit latest : Nat} {drain : Drain} {world : ClockWorld}
  {timers : List (QueuedTimer (Handler TimerId))} {clock' : VirtualClock (Handler TimerId)}
  {goal : VirtualClock.Goal}

/-- What a drain of such callbacks comes to. -/
theorem comes_of_takes (hobeys : world.Obeys Action.isPassive) (hclock : world.provider.Poised)
    (hgoal : VirtualClock.Goal.of drain world.provider.now = .ok goal)
    (hdeadline : goal.deadline = some latest)
    (htakes : VirtualClock.Takes goal world.provider timers clock')
    (hle : timers.length ≤ VirtualClock.clampLimit limit) :
    ∃ (after : ClockWorld) (turn : Turn TimerId),
      Comes (VirtualClock.provider limit) (.drain drain) world after turn ∧
      turn.result = some (.answered (.ok (.ran timers.length))) ∧
      turn.starts = timers.map (fun t => (t.firing, t.dueAt)) ∧
      after.provider = clock'.reach goal ∧ after.Obeys Action.isPassive := by
  have hforget : world.forget.Obeys Action.isPassive := hobeys
  obtain ⟨hfires, hprovider, hstarts⟩ := htakes.fires limit world.forget rfl hforget
    hclock (VirtualClock.Goal.of_inTime hgoal) hdeadline
  have hnone : (world.forget.turns limit timers).provider.next? goal.deadline = none := by
    rw [hprovider]
    exact htakes.quiet_after
  refine ⟨_, _, comes_quiet Action.isPassive_drain hobeys hgoal hfires hle hnone, rfl, ?_, ?_, ?_⟩
  · rw [starts_seen]
    refine (congrArg List.reverse hstarts).trans ?_
    rw [List.reverse_append, List.reverse_reverse]
    rfl
  · exact congrArg (·.reach goal) hprovider
  · have hafter : (world.forget.turns limit timers).Obeys Action.isPassive :=
      World.Obeys.turns Action.isPassive_drain hforget hfires
    intro t ht
    refine hafter t ?_
    rw [← VirtualClock.reach_queue goal]
    exact ht

end Turn

end PageTimers
