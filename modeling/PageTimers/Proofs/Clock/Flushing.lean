/-
# Flushing and advancing

A flush runs timers until none waits, and leaves the clock where the last of
them has taken it.  An advance to that very moment does the same: it may only
run what is due by then, but nothing else ever waited.

    flush     takes whatever is first, and stops when nothing waits
    advance   takes what is first if it is due by `t'`, and moves on to `t'`

The start of a timer takes the clock to its due time at least, and the clock
does not run back.  So every timer that the flush takes, also one that was
scheduled on the way or was overdue to begin with, is due by the time `t'` that
the clock shows in the end (`Fires.by_end`).

What is asked of the callbacks concerns the firings to come only
(`World.WillObey`): a timer whose callback drained on an earlier firing may
be overdue now.
-/
import PageTimers.Proofs.Clock.StepLimit

namespace PageTimers

/-! ## Firings to come -/

namespace Handler

variable {ι : Type} {p : Action ι → Bool}

/-- What is left of a callback that has fired so often. -/
def later (runs : Nat) : Handler ι → Handler ι
  | .mk quiet ticks body => .mk quiet (ticks.drop runs) body

theorem actions_later (handler : Handler ι) (runs count : Nat) :
    (handler.later runs).actions count = handler.actions (runs + count) := by
  obtain ⟨quiet, ticks, body⟩ := handler
  simp only [later, actions, List.getElem?_drop]

theorem later_later (handler : Handler ι) (first second : Nat) :
    (handler.later first).later second = handler.later (first + second) := by
  obtain ⟨quiet, ticks, body⟩ := handler
  simp only [later, List.drop_drop]

theorem obeys_later {handler : Handler ι} (h : handler.obeys p = true) (runs : Nat) :
    (handler.later runs).obeys p = true := by
  obtain ⟨quiet, ticks, body⟩ := handler
  rw [obeys, Bool.and_eq_true, ticksObey_iff] at h
  rw [later, obeys, Bool.and_eq_true, ticksObey_iff]
  exact ⟨fun actions hactions => h.1 actions (List.mem_of_mem_drop hactions), h.2⟩

end Handler

namespace World

variable {limit latest : Nat} {world : ClockWorld} {p : Action TimerId → Bool}
  {timers : List (QueuedTimer (Handler TimerId))}

/-- On the firings to come, the callbacks that wait do only what `p` allows,
and so do those that they bring along. -/
def WillObey (p : Action TimerId → Bool) (world : ClockWorld) : Prop :=
  ∀ t ∈ world.provider.queue, (t.callback.later t.runs).obeys p = true

theorem undraining_willObey (hp : ∀ drain, p (.drain drain) = false) :
    Undraining limit (WillObey p) := by
  have hscript : ∀ {world : ClockWorld} {deadline : Option Nat}
      {timer : QueuedTimer (Handler TimerId)}, WillObey p world →
      world.provider.next? deadline = some timer →
      ∀ a ∈ timer.script, p a = true ∧ a.obeys p = true := by
    intro world deadline timer h hnext
    have hnow := Handler.obeys_actions (h timer (VirtualClock.next?_spec hnext).1) 0
    rwa [Handler.actions_later] at hnow
  have hundrained : ∀ {world : ClockWorld} {deadline : Option Nat}
      {timer : QueuedTimer (Handler TimerId)}, WillObey p world →
      world.provider.next? deadline = some timer → ∀ a ∈ timer.script, a.isDrain = false := by
    intro world deadline timer h hnext a ha
    cases a with
    | drain drain =>
        have hallowed := (hscript h hnext _ ha).1
        rw [hp] at hallowed
        cases hallowed
    | _ => rfl
  refine ⟨hundrained, fun h hnext => ?_⟩
  refine AllWait.turn (Q := fun t => (t.callback.later t.runs).obeys p = true) ?_ ?_ h hnext
    (hundrained h hnext) fun a ha => (hscript h hnext a ha).2
  · exact fun _ _ _ _ hhandler => Handler.obeys_later hhandler 0
  · intro t _ _ ht
    have hnext := Handler.obeys_later ht 1
    rwa [Handler.later_later] at hnext

end World

/-! ## Due in the end -/

namespace VirtualClock

variable {α : Type} {clock : VirtualClock α} {timer : QueuedTimer α}

/-- What is first of all is first of those due by some time, if it is one of
them. -/
theorem next?_of_due {latest : Nat} (h : clock.next? none = some timer)
    (hdue : timer.dueAt ≤ latest) : clock.next? (some latest) = some timer := by
  cases hnext : clock.next? (some latest) with
  | none =>
      have hlate := next?_eq_none_iff.mp hnext timer (next?_spec h).1
      rw [QueuedTimer.isDue, decide_eq_false_iff_not] at hlate
      exact absurd hdue hlate
  | some first =>
      have hfirst : clock.next? none = some first := next?_of_sooner (fun _ _ => rfl) hnext
      rw [← h, hfirst]

/-- Nothing is left where nothing is due at all. -/
theorem queue_eq_nil (h : clock.next? none = none) : clock.queue = [] :=
  List.eq_nil_iff_forall_not_mem.mpr fun t ht =>
    Bool.false_ne_true (next?_eq_none_iff.mp h t ht).symm

/-- Nor is anything due there by any time. -/
theorem next?_of_quiet (h : clock.next? none = none) (deadline : Option Nat) :
    clock.next? deadline = none := by
  rw [next?, queue_eq_nil h]
  rfl

end VirtualClock

namespace World

variable {limit latest : Nat} {world : ClockWorld} {I : ClockWorld → Prop}
  {timers : List (QueuedTimer (Handler TimerId))}

/-- A flush leaves the clock where its turns have taken it. -/
theorem reached_flush (ran : Nat) (world : ClockWorld) : world.reached .flush ran = world := rfl

/-- So does an advance to that time. -/
theorem reached_now (delta ran : Nat) (world : ClockWorld) :
    world.reached (.advance delta world.provider.now) ran =
      world.journaled [.advanced delta world.provider.now ran] := by
  simp only [reached, VirtualClock.reach, VirtualClock.reachEvents, Nat.max_self]

/-- All timers that a flush takes are due by the time it leaves the clock at. -/
theorem Fires.by_end (hI : Undraining limit I) (hworld : I world)
    (h : Fires limit none world timers)
    (hlatest : (world.turns limit timers).provider.now ≤ latest) :
    Fires limit (some latest) world timers := by
  induction timers generalizing world with
  | nil => exact .nil world
  | cons timer timers ih =>
      cases h with
      | cons hnext hreturns h =>
          have hturn : I (world.turn limit timer) := hI.turn hworld hnext
          have hdue : timer.dueAt ≤ latest := by
            have hnow : (world.turn limit timer).provider.now =
                max world.provider.now timer.dueAt := turn_now (hI.undrained hworld hnext)
            have hlater : (world.turn limit timer).provider.now ≤ latest :=
              Nat.le_trans (h.le_now hI hturn) hlatest
            omega
          exact .cons (VirtualClock.next?_of_due hnext hdue) hreturns (ih hturn h hlatest)

end World

/-! ## The same in the end -/

namespace ClockSession

/-- However long a session goes on, its clock stays within its word. -/
theorem now_lt_of_fires {limit n : Nat} {globals : Globals} {actions : List (Action TimerId)}
    {world : ClockWorld} {I : ClockWorld → Prop} {timers : List (QueuedTimer (Handler TimerId))}
    (hended : ((fresh globals actions).after limit n).machine.ended?.isSome)
    (hprovider : world.provider = ((fresh globals actions).after limit n).clock)
    (hI : World.Undraining limit I) (hworld : I world)
    (hfires : World.Fires limit none world timers) :
    (world.turns limit timers).provider.now < word64 := by
  obtain ⟨history, hbeats⟩ : ∃ history, VirtualClock.Beats True ⟨world.provider, []⟩ history
      ⟨(world.turns limit timers).provider, []⟩ :=
    World.Fires.beats_while hI hworld (show VirtualClock.Goal.flush.InTime from trivial) hfires
  rw [hprovider] at hbeats
  have hwithin : VirtualClock.Within 0 ⟨(world.turns limit timers).provider, []⟩ :=
    VirtualClock.Within.fresh.beats ((beats_of_ended limit globals actions n hended).append hbeats)
  exact Nat.lt_of_le_sub_one (by decide) hwithin.now_le

/-- **A flush agrees with an advance.**  Wherever a session stands between two
actions, if the callbacks that wait will not drain, a flush that comes back
well leaves nothing waiting; and from the same place an advance to the time at
which the flush left the clock comes back well too, runs as many callbacks,
the same ones in the same order and at the same times, doing the same with the
same results, and leaves the same clock and the same page.  Only the journal
tells them apart, by the entry of the advance. -/
theorem flush_agrees_with_advance (limit : Nat) (globals : Globals) (actions : List (Action TimerId))
    (n : Nat) {after : ClockWorld} {turn : Turn TimerId} {count : Nat}
    (hended : ((fresh globals actions).after limit n).machine.ended?.isSome)
    (hcalm : ((fresh globals actions).after limit n).machine.world.WillObey fun a => !a.isDrain)
    (hflush : Turn.Comes (VirtualClock.provider limit) (.drain .flush)
      ((fresh globals actions).after limit n).machine.world after turn)
    (hresult : turn.result = some (.answered (.ok (.ran count)))) :
    let world := ((fresh globals actions).after limit n).machine.world
    let span := after.provider.now - world.provider.now
    world.provider.now + span = after.provider.now ∧ after.provider.queue = [] ∧
    ∃ (again : ClockWorld) (advance : Turn TimerId),
      Turn.Comes (VirtualClock.provider limit) (.drain (.advance (.ofMillis span))) world again advance ∧
      advance.result = some (.answered (.ok (.ran count))) ∧
      advance.log = turn.log ∧
      advance.journal = turn.journal ++ [.advanced span after.provider.now count] ∧
      again.forget = after.forget := by
  intro world span
  have hI : World.Undraining limit (World.WillObey fun a => !a.isDrain) :=
    World.undraining_willObey fun _ => rfl
  have hworld : world.forget.WillObey fun a => !a.isDrain := hcalm
  obtain ⟨goal, timers, hgoal, hfires, rfl, hle, hnone, hafter⟩ := hflush.ran hI hworld hresult
  cases hgoal
  rw [World.reached_flush] at hafter
  subst hafter
  have hfires : World.Fires limit none world.forget timers := hfires
  have hnow : world.provider.now ≤ (world.forget.turns limit timers).provider.now :=
    hfires.le_now hI hworld
  have htime : (world.forget.turns limit timers).provider.now < word64 :=
    now_lt_of_fires hended rfl hI hworld hfires
  have hcomes := Turn.comes_when_quiet hI hworld (VirtualClock.Goal.of_target hnow htime)
    (hfires.by_end hI hworld (Nat.le_refl _)) hle (VirtualClock.next?_of_quiet hnone _)
  simp only [World.reached_now] at hcomes
  refine ⟨Nat.add_sub_of_le hnow, VirtualClock.queue_eq_nil hnone, _, _, hcomes, rfl, ?_, ?_, rfl⟩
  · rw [hflush.leads.1]
    rfl
  · rw [hflush.leads.1]
    exact List.reverse_append

/-- It moves the clock on when it fires first; later it schedules a timer and
clears itself. -/
def latecomer : Handler TimerId :=
  .mk false [[.drain (.advance (.ofMillis 30))]]
    [.now, .schedule .page .once (.ofMillis 7) none .idle, .clear .page .repeating .self]

def latecomerActions : List (Action TimerId) :=
  [.schedule .page .repeating (.ofMillis 10) none latecomer, .drain (.advance (.ofMillis 10))]

/-- At forty milliseconds a timer waits that was due at twenty.  A flush runs it,
and the one that it schedules, and so does an advance by seven. -/
theorem latecomer_flushed :
    let world := ((fresh .empty latecomerActions).after 5 10).machine.world
    ((fresh .empty latecomerActions).after 5 10).machine.ended?.isSome ∧
    (world.WillObey fun a => !a.isDrain) ∧
    world.provider.now = 40 ∧ world.provider.queue.map (·.dueAt) = [20] ∧
    ∃ after turn again advance,
      Turn.Comes (VirtualClock.provider 5) (.drain .flush) world after turn ∧
      Turn.Comes (VirtualClock.provider 5) (.drain (.advance (.ofMillis 7))) world again advance ∧
      advance.result = some (.answered (.ok (.ran 2))) ∧ advance.log = turn.log ∧
      again.forget = after.forget := by
  intro world
  have hended : ((fresh .empty latecomerActions).after 5 10).machine.ended?.isSome := by decide +kernel
  have hcalm : world.WillObey fun a => !a.isDrain := by
    intro t ht
    obtain rfl := List.mem_singleton.mp ht
    rfl
  obtain ⟨after, turn, hcomes, hresult, hspan⟩ : ∃ after turn,
      Turn.Comes (VirtualClock.provider 5) (.drain .flush) world after turn ∧
      turn.result = some (.answered (.ok (.ran 2))) ∧
      after.provider.now - world.provider.now = 7 :=
    ⟨_, _, ⟨20, rfl, by decide +kernel⟩, by rfl, by decide +kernel⟩
  obtain ⟨-, -, again, advance, hagain, hran, hlog, -, hsame⟩ :=
    flush_agrees_with_advance 5 .empty latecomerActions 10 hended hcalm hcomes hresult
  rw [hspan] at hagain
  exact ⟨hended, hcalm, by decide +kernel, by decide +kernel, after, turn, again, advance, hcomes,
    hagain, hran, hlog, hsame⟩

end ClockSession

end PageTimers
