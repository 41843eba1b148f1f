/-
# When programs come to an end

Where repeating timers do not drain, a program ends, and starts no more
callbacks than the limit for each drain that is written in it
(`still_programs_end`).  What it owes does not grow, and falls with every
callback that is started; in between its work falls.

Without stillness there is no bound, and no end (`echo_never_returns`).  A
repeating timer whose callback schedules a one-shot timer that flushes runs
through a circle of three steps, one level deeper each time: the one-shot
timer is due before the next turn of the other, its flush starts that turn,
and that turn schedules the next one-shot timer.
-/
import PageTimers.Proofs.Clock.Spending

namespace PageTimers

/-! ## Whole runs -/

namespace ClockSession

variable (limit : Nat) {s : ClockSession}

/-- How many callbacks the session may still start. -/
def owed (s : ClockSession) : Nat :=
  s.machine.owed limit + VirtualClock.clampLimit limit * drainsOf s.coming

/-- What is to be done before the next callback is started. -/
def work (s : ClockSession) : Nat := s.machine.work + 4 * s.coming.length

/-- Nothing is left to do. -/
def Over (s : ClockSession) : Prop := s.machine.ended?.isSome ∧ s.coming = []

/-- No repeating timer drains, now or later. -/
structure Still (s : ClockSession) : Prop where
  machine : s.machine.Still
  coming : ∀ a ∈ s.coming, a.still = true
  settled : s.machine.Settled

theorem Still.step (h : s.Still) : Still (Session.step (VirtualClock.provider limit) s) := by
  cases hended : s.machine.ended? with
  | none =>
      rw [Session.step_of_running hended]
      have hcourse := s.machine.course_step (P := VirtualClock.provider limit)
      exact ⟨h.machine.course hcourse, h.coming, h.settled.course hcourse⟩
  | some ended =>
      have hsome : s.machine.ended?.isSome := by rw [hended]; rfl
      cases hcoming : s.coming with
      | nil => rwa [Session.step_of_over hsome hcoming]
      | cons action rest =>
          rw [Session.step_of_next hsome hcoming]
          have hall := h.coming
          rw [hcoming] at hall
          exact ⟨h.machine.load (hall action List.mem_cons_self),
            fun a ha => hall a (List.mem_cons_of_mem _ ha), Machine.settled_of_running rfl⟩

/-- Every step pays, until all is done. -/
theorem Still.pays (h : s.Still) (hover : ¬ s.Over) :
    let next : ClockSession := Session.step (VirtualClock.provider limit) s
    (next.machine.startCount = s.machine.startCount + 1 ∧ next.owed limit + 1 ≤ s.owed limit) ∨
    (next.machine.startCount = s.machine.startCount ∧ next.owed limit ≤ s.owed limit ∧
      next.work < s.work) := by
  intro next
  cases hended : s.machine.ended? with
  | none =>
      have hnext : next = ⟨s.machine.step (VirtualClock.provider limit), s.coming⟩ :=
        Session.step_of_running hended
      have hcourse := s.machine.course_step (P := VirtualClock.provider limit)
      rw [hnext]
      refine (h.machine.pays hended hcourse).imp ?_ ?_
      · rintro ⟨hstarts, howed⟩
        exact ⟨hstarts, Nat.add_lt_add_right howed _⟩
      · rintro ⟨hstarts, howed, hwork⟩
        exact ⟨hstarts, Nat.add_le_add_right howed _, Nat.add_lt_add_right hwork _⟩
  | some ended =>
      have hsome : s.machine.ended?.isSome := by rw [hended]; rfl
      cases hcoming : s.coming with
      | nil => exact absurd ⟨hsome, hcoming⟩ hover
      | cons action rest =>
          have hnext : next = ⟨.load s.machine.world [action], rest⟩ :=
            Session.step_of_next hsome hcoming
          rw [hnext]
          refine Or.inr ⟨rfl, ?_, ?_⟩
          · have hmul : VirtualClock.clampLimit limit *
                (action.drainCount + s.machine.world.provider.drainsWaiting) +
                  VirtualClock.clampLimit limit * drainsOf rest ≤
                VirtualClock.clampLimit limit * s.machine.drainsWritten +
                  VirtualClock.clampLimit limit * (action.drainCount + drainsOf rest) := by
              have hwaiting : s.machine.world.provider.drainsWaiting ≤ s.machine.drainsWritten :=
                Nat.le_add_left _ _
              have hle := Nat.mul_le_mul_left (VirtualClock.clampLimit limit) hwaiting
              rw [Nat.mul_add, Nat.mul_add]
              omega
            have hload : (Machine.load s.machine.world [action] : ClockMachine).owed limit =
                VirtualClock.clampLimit limit *
                  (action.drainCount + s.machine.world.provider.drainsWaiting) := by
              simp [Machine.owed, Machine.drainsWritten, Machine.turnsLeft, Machine.load,
                Control.drainCount, drainsOf]
            show (Machine.load s.machine.world [action] : ClockMachine).owed limit +
              VirtualClock.clampLimit limit * drainsOf rest ≤ s.machine.owed limit +
                VirtualClock.clampLimit limit * drainsOf s.coming
            rw [hload, hcoming, drainsOf, Machine.owed]
            omega
          · simp only [work, Machine.work, Machine.load, Control.work, hcoming, List.length_cons,
              List.map_nil, List.sum_nil, List.length_nil]
            omega

/-- What a session has started and what it owes do not grow. -/
theorem Still.startCount_add_owed (h : s.Still) (n : Nat) :
    (s.after limit n).Still ∧
      (s.after limit n).machine.startCount + (s.after limit n).owed limit ≤
        s.machine.startCount + s.owed limit := by
  induction n with
  | zero => exact ⟨h, Nat.le_refl _⟩
  | succ n ih =>
      obtain ⟨hn, hle⟩ := ih
      refine ⟨hn.step limit, ?_⟩
      show (Session.step (VirtualClock.provider limit) (s.after limit n)).machine.startCount +
        owed limit (Session.step (VirtualClock.provider limit) (s.after limit n)) ≤ _
      by_cases hover : (s.after limit n).Over
      · rwa [Session.step_of_over hover.1 hover.2]
      · rcases hn.pays limit hover with ⟨hstarts, howed⟩ | ⟨hstarts, howed, -⟩ <;> omega

/-- As what is owed cannot fall for ever, and neither can the work in between,
a still session comes to its end. -/
theorem Still.comes_to_end (s : ClockSession) (h : s.Still) : ∃ n, (s.after limit n).Over := by
  by_cases hover : s.Over
  · exact ⟨0, hover⟩
  · have hpays := h.pays limit hover
    obtain ⟨n, hn⟩ := comes_to_end (Session.step (VirtualClock.provider limit) s) (h.step limit)
    refine ⟨n + 1, ?_⟩
    rw [after, Session.after_succ']
    exact hn
termination_by (s.owed limit, s.work)
decreasing_by
  rcases hpays with ⟨-, howed⟩ | ⟨-, howed, hwork⟩
  · exact Prod.Lex.left _ _ howed
  · rcases Nat.lt_or_eq_of_le howed with hlt | heq
    · exact Prod.Lex.left _ _ hlt
    · rw [heq]
      exact Prod.Lex.right _ hwork

theorem over_after (hover : s.Over) (n : Nat) : s.after limit n = s := by
  induction n with
  | zero => rfl
  | succ n ih =>
      show Session.step (VirtualClock.provider limit) (s.after limit n) = s
      rw [ih, Session.step_of_over hover.1 hover.2]

/-- **Programs end where repeating timers do not drain.**  However deep the
callbacks of a program nest their drains: if no repeating timer drains in its
callback, nor in one that it schedules, then the whole run comes to its end,
every drain with it, and no more callbacks are started than the limit for each
drain that is written in the program. -/
theorem still_programs_end (limit : Nat) (globals : Globals) {actions : List (Action TimerId)}
    (hstill : ∀ a ∈ actions, a.still = true) :
    (∀ n, (((fresh globals actions).after limit n).machine.world.log.filterMap
      Entry.start?).length ≤ VirtualClock.clampLimit limit * drainsOf actions) ∧
    ∃ n, ∀ later, n ≤ later →
      ((fresh globals actions).after limit later).machine.ended?.isSome ∧
      ((fresh globals actions).after limit later).machine.stack = [] ∧
      ((fresh globals actions).after limit later).coming = [] := by
  have hfresh : (fresh globals actions).Still := by
    refine ⟨⟨fun _ h => absurd h List.not_mem_nil, fun _ h => absurd h List.not_mem_nil, ?_⟩,
      hstill, Session.settled_start _ _⟩
    rintro _ _ hrun a ha
    cases hrun
    exact absurd ha List.not_mem_nil
  refine ⟨fun n => ?_, ?_⟩
  · have howed : (fresh globals actions).machine.startCount + (fresh globals actions).owed limit =
        VirtualClock.clampLimit limit * drainsOf actions := by
      simp [fresh, Session.start, Machine.load, World.start, Machine.startCount, owed,
        Machine.owed, Machine.drainsWritten, Machine.turnsLeft, Control.drainCount, drainsOf,
        VirtualClock.drainsWaiting, VirtualClock.fresh]
    exact Nat.le_trans (Nat.le_add_right _ _) (howed ▸ (hfresh.startCount_add_owed limit n).2)
  · obtain ⟨n, hover⟩ := hfresh.comes_to_end limit
    refine ⟨n, fun later hlater => ?_⟩
    obtain ⟨k, rfl⟩ := Nat.exists_eq_add_of_le hlater
    have hafter : (fresh globals actions).after limit (n + k) =
        ((fresh globals actions).after limit n).after limit k := Session.after_add _ _ _
    rw [hafter, over_after limit hover]
    exact ⟨hover.1, (hfresh.startCount_add_owed limit n).1.settled hover.1, hover.2⟩

/-- A one-shot timer flushes beside an interval that does nothing. -/
def flusherActions : List (Action TimerId) :=
  [.schedule .page .repeating (.ofMillis 10) none .idle,
    .schedule .page .once (.ofMillis 5) none (.mk false [] [.drain .flush]), .drain .flush]

theorem flusher_ends :
    (∀ a ∈ flusherActions, a.still = true) ∧
    (∀ n, (((fresh .empty flusherActions).after 3 n).machine.world.log.filterMap
      Entry.start?).length ≤ 6) ∧
    ∃ n, ((fresh .empty flusherActions).after 3 n).machine.ended?.isSome ∧
      ((fresh .empty flusherActions).after 3 n).coming = [] := by
  have hstill : ∀ a ∈ flusherActions, a.still = true := by decide
  obtain ⟨hstarts, n, hend⟩ := still_programs_end 3 .empty hstill
  exact ⟨hstill, hstarts, n, (hend n (Nat.le_refl n)).1, (hend n (Nat.le_refl n)).2.2⟩

end ClockSession

/-! ## A flush that never returns -/

namespace VirtualClock

/-- A one-shot callback that flushes. -/
def echoed : Handler TimerId := .mk false [] [.drain .flush]

/-- A callback that schedules a flush, to be done at once. -/
def echoing : Handler TimerId := .mk false [] [.schedule .page .once (.ofMillis 0) none echoed]

/-- A flush with turns left has just started the repeating timer, and nothing
waits. -/
structure Struck (u : UnderWay (Handler TimerId)) (clock : VirtualClock (Handler TimerId)) :
    Prop where
  goal : u.goal = .flush
  left : 0 < u.left
  period : u.timer.period = some 10
  callback : u.timer.callback = echoing
  alone : clock.queue = []
  running : clock.running = some ⟨u.timer.id, .repeating, false⟩
  onTime : u.timer.dueAt = clock.now
  now_le : clock.now ≤ Duration.lastInstant

namespace Struck

variable {u : UnderWay (Handler TimerId)} {clock : VirtualClock (Handler TimerId)}

/-- The clock when the callback has scheduled the flush. -/
def primed (clock : VirtualClock (Handler TimerId)) : VirtualClock (Handler TimerId) :=
  (clock.schedule .once echoed (.ofMillis 0)).2

/-- The flush that was scheduled. -/
def echo (clock : VirtualClock (Handler TimerId)) : QueuedTimer (Handler TimerId) :=
  clock.scheduledTimer .once echoed (.ofMillis 0)

/-- The next turn of the repeating timer. -/
def again (u : UnderWay (Handler TimerId)) (clock : VirtualClock (Handler TimerId)) :
    QueuedTimer (Handler TimerId) :=
  (primed clock).rearmed u.timer 10

theorem finish_queue (h : Struck u clock) :
    ((primed clock).finish u.timer).queue = [again u clock, echo clock] := by
  rcases finish_cases u.timer (primed clock) with ⟨-, hnone | hc⟩ | ⟨period, hperiod, -, hqueue, -⟩
  · rw [h.period] at hnone
    cases hnone
  · have hrunning : (primed clock).running = some ⟨u.timer.id, .repeating, false⟩ := h.running
    rw [wasCancelled, hrunning] at hc
    cases hc
  · rw [h.period] at hperiod
    cases hperiod
    rw [hqueue, primed, schedule_queue, h.alone]
    rfl

theorem echo_dueAt (h : Struck u clock) : (echo clock).dueAt = clock.now :=
  Nat.min_eq_left h.now_le

theorem now_le_again (h : Struck u clock) : clock.now ≤ (again u clock).dueAt := by
  have hdue : (again u clock).dueAt = saturatingAdd u.timer.dueAt 10 := rfl
  rw [hdue, h.onTime]
  exact Nat.le_min.mpr ⟨Nat.le_add_right _ _, h.now_le⟩

/-- The flush comes first. -/
theorem next_echo (h : Struck u clock) :
    ((primed clock).finish u.timer).next? none = some (echo clock) := by
  have hlate : (again u clock).precedes (echo clock) = false := by
    rw [← Bool.not_eq_true, QueuedTimer.precedes_iff, h.echo_dueAt]
    have hle := h.now_le_again
    have horder : (again u clock).order = (echo clock).order + 1 := rfl
    omega
  rw [next?, h.finish_queue]
  simp [QueuedTimer.isDue, QueuedTimer.earliest?, QueuedTimer.earlier, hlate]

/-- The clock when the flush has been started. -/
def within (u : UnderWay (Handler TimerId)) (clock : VirtualClock (Handler TimerId)) :
    VirtualClock (Handler TimerId) :=
  ((primed clock).finish u.timer).start (echo clock)

theorem within_queue (h : Struck u clock) : (within u clock).queue = [again u clock] := by
  have horder : (again u clock).order = (echo clock).order + 1 := rfl
  simp [within, start, h.finish_queue, horder]

theorem within_now (h : Struck u clock) : (within u clock).now = clock.now := by
  have hnow : ((primed clock).finish u.timer).now = clock.now := finish_now _ _
  rw [within, start_now, hnow, h.echo_dueAt, Nat.max_self]

/-- The repeating timer is all that the flush finds. -/
theorem next_again (h : Struck u clock) : (within u clock).next? none = some (again u clock) := by
  rw [next?, h.within_queue]
  rfl

/-- It strikes again, one period later. -/
theorem strike (h : Struck u clock) {left ran : Nat} (hleft : 0 < left) :
    Struck ⟨.flush, left, ran, again u clock⟩ ((within u clock).start (again u clock)) := by
  have hnow : ((within u clock).start (again u clock)).now = (again u clock).dueAt := by
    rw [start_now, h.within_now]
    exact Nat.max_eq_right h.now_le_again
  refine ⟨rfl, hleft, rfl, h.callback, ?_, rfl, hnow.symm, ?_⟩
  · simp [start, h.within_queue]
  · rw [hnow]
    exact Nat.min_le_right _ _

variable {left ran : Nat} {timer : QueuedTimer (Handler TimerId)}

/-- When the callback returns, its drain starts the flush. -/
theorem resume_eq (h : Struck ⟨.flush, left + 1, ran, timer⟩ clock) :
    resume ⟨.flush, left + 1, ran, timer⟩ .returned (primed clock) =
      ⟨[startEvent (echo clock) ((primed clock).finish timer)],
        within ⟨.flush, left + 1, ran, timer⟩ clock,
        .invoke (echo clock).firing ⟨.flush, left, ran + 1, echo clock⟩⟩ := by
  simp only [resume, proceed, Goal.deadline, h.next_echo]
  rfl

/-- The flush starts the repeating timer, with a limit of its own. -/
theorem ask_eq (h : Struck u clock) {limit k : Nat} (hlimit : clampLimit limit = k + 1) :
    ask limit (.drain .flush) (within u clock) =
      ⟨[startEvent (again u clock) (within u clock)], (within u clock).start (again u clock),
        .invoke (again u clock).firing ⟨.flush, k, 1, again u clock⟩⟩ := by
  simp only [ask, Goal.of, proceed, Goal.deadline, h.next_again, hlimit]

end Struck

end VirtualClock

namespace Machine

open VirtualClock (echoed echoing Struck)

section Settle

variable (limit : Nat) (world : World (VirtualClock (Handler TimerId)) TimerId)
  (w : Waiting (VirtualClock.UnderWay (Handler TimerId)) TimerId)
  (stack : List (Waiting (VirtualClock.UnderWay (Handler TimerId)) TimerId ×
    VirtualClock.UnderWay (Handler TimerId)))
  {move : Move (VirtualClock (Handler TimerId)) (VirtualClock.UnderWay (Handler TimerId)) TimerId
    (Handler TimerId)}

theorem settle_of_answer {result : Except TimerError (Answer TimerId)}
    (h : move.outcome = .answer result) :
    ∃ world', settle (VirtualClock.provider limit) world w stack move =
        ⟨world', .run w.caller w.rest, stack⟩ ∧ world'.provider = move.state ∧
      (world'.log.filterMap Entry.start?).length = (world.log.filterMap Entry.start?).length := by
  have hstarts := starts_settle (P := VirtualClock.provider limit) world w stack move
  have hprovider := settle_provider (P := VirtualClock.provider limit) world w stack move
  rw [Provider.startedBy?, h] at hstarts
  unfold settle at hstarts hprovider ⊢
  simp only [h] at hstarts hprovider ⊢
  exact ⟨_, rfl, hprovider, congrArg List.length hstarts⟩

theorem settle_of_invoke {firing : Firing TimerId (Handler TimerId)}
    {u : VirtualClock.UnderWay (Handler TimerId)} (h : move.outcome = .invoke firing u) :
    ∃ world', settle (VirtualClock.provider limit) world w stack move =
        ⟨world', .run (.callback firing.id) (firing.callback.actions firing.count),
          (w, u) :: stack⟩ ∧ world'.provider = move.state ∧
      (world'.log.filterMap Entry.start?).length =
        (world.log.filterMap Entry.start?).length + 1 := by
  have hstarts := starts_settle (P := VirtualClock.provider limit) world w stack move
  have hprovider := settle_provider (P := VirtualClock.provider limit) world w stack move
  rw [Provider.startedBy?, h] at hstarts
  unfold settle at hstarts hprovider ⊢
  simp only [h] at hstarts hprovider ⊢
  exact ⟨_, rfl, hprovider, congrArg List.length hstarts⟩

end Settle

section Echo

variable (limit : Nat) (caller : Caller TimerId)
  {world : World (VirtualClock (Handler TimerId)) TimerId}
  (stack : List (Waiting (VirtualClock.UnderWay (Handler TimerId)) TimerId ×
    VirtualClock.UnderWay (Handler TimerId)))
  {clock : VirtualClock (Handler TimerId)} {u : VirtualClock.UnderWay (Handler TimerId)}

/-- The repeating callback schedules the flush. -/
theorem step_schedule :
    ∃ world', step (VirtualClock.provider limit)
        ⟨world, .run caller [.schedule .page .once (.ofMillis 0) none echoed], stack⟩ =
          ⟨world', .run caller [], stack⟩ ∧
      world'.provider = Struck.primed world.provider ∧
      (world'.log.filterMap Entry.start?).length = (world.log.filterMap Entry.start?).length := by
  have hanswer : (VirtualClock.ask limit (.schedule .once echoed (.ofMillis 0))
      world.provider).outcome = .answer (.ok (.scheduled ⟨world.provider.lastId + 1⟩)) := rfl
  exact settle_of_answer limit world ⟨caller, .schedule .page .once (.ofMillis 0) none echoed,
    .schedule .once echoed (.ofMillis 0), isWatched world .page, []⟩ stack hanswer

/-- It returns, and its drain starts the flush. -/
theorem step_return (hstruck : Struck u clock) (hprimed : world.provider = Struck.primed clock)
    (w : Waiting (VirtualClock.UnderWay (Handler TimerId)) TimerId) :
    ∃ world' frame, step (VirtualClock.provider limit) ⟨world, .run caller [], (w, u) :: stack⟩ =
        ⟨world', .run (.callback (some (Struck.echo clock).id)) [.drain .flush], frame :: stack⟩ ∧
      world'.provider = Struck.within u clock ∧
      (world'.log.filterMap Entry.start?).length =
        (world.log.filterMap Entry.start?).length + 1 := by
  obtain ⟨goal, left, ran, timer⟩ := u
  obtain ⟨left, rfl⟩ := Nat.exists_eq_add_one.mpr hstruck.left
  obtain rfl := hstruck.goal
  have hmove := hstruck.resume_eq
  rw [← hprimed] at hmove
  obtain ⟨world', hstep, hprovider, hstarts⟩ :=
    settle_of_invoke limit world w stack (congrArg Move.outcome hmove)
  exact ⟨world', _, hstep, hprovider.trans (congrArg Move.state hmove), hstarts⟩

/-- The flush starts the repeating timer. -/
theorem step_flush (hlimit : 2 ≤ limit) (hstruck : Struck u clock)
    (hwithin : world.provider = Struck.within u clock) :
    ∃ world' caller' frame, step (VirtualClock.provider limit)
        ⟨world, .run caller [.drain .flush], stack⟩ =
          ⟨world', .run caller' [.schedule .page .once (.ofMillis 0) none echoed],
            frame :: stack⟩ ∧
      Struck frame.2 world'.provider ∧
      (world'.log.filterMap Entry.start?).length =
        (world.log.filterMap Entry.start?).length + 1 := by
  obtain ⟨k, hk⟩ : ∃ k, VirtualClock.clampLimit limit = k + 1 + 1 :=
    ⟨limit - 2, by rw [VirtualClock.clampLimit]; omega⟩
  have hmove := hstruck.ask_eq hk
  rw [← hwithin] at hmove
  obtain ⟨world', hstep, hprovider, hstarts⟩ := settle_of_invoke limit world
    ⟨caller, .drain .flush, .drain .flush, false, []⟩ stack (congrArg Move.outcome hmove)
  have hactions :
      (Struck.again u clock).firing.callback.actions (Struck.again u clock).firing.count =
      [.schedule .page .once (.ofMillis 0) none echoed] := by
    have hcallback : (Struck.again u clock).firing.callback = echoing := hstruck.callback
    rw [hcallback]
    rfl
  rw [hactions] at hstep
  refine ⟨world', _, _, hstep, ?_, hstarts⟩
  rw [hprovider.trans (congrArg Move.state hmove), hwithin]
  exact hstruck.strike (Nat.succ_pos k)

end Echo

/-- The repeating timer has been started, and its callback is about to
schedule the next flush. -/
def Echoing (m : ClockMachine) : Prop :=
  ∃ world caller frame stack,
    m = ⟨world, .run caller [.schedule .page .once (.ofMillis 0) none echoed], frame :: stack⟩ ∧
      Struck frame.2 world.provider

/-- Three steps later the same is to be done, one flush deeper. -/
theorem Echoing.three_steps {limit : Nat} (hlimit : 2 ≤ limit) {m : ClockMachine} (h : m.Echoing) :
    (m.step (VirtualClock.provider limit)).stack ≠ [] ∧
    ((m.step (VirtualClock.provider limit)).step (VirtualClock.provider limit)).stack ≠ [] ∧
    (((m.step (VirtualClock.provider limit)).step (VirtualClock.provider limit)).step
      (VirtualClock.provider limit)).Echoing ∧
    m.startCount < (((m.step (VirtualClock.provider limit)).step
      (VirtualClock.provider limit)).step (VirtualClock.provider limit)).startCount := by
  obtain ⟨world, caller, ⟨w, u⟩, stack, rfl, hstruck⟩ := h
  obtain ⟨world₁, hfirst, hprimed, hstarts₁⟩ := step_schedule limit caller ((w, u) :: stack)
  obtain ⟨world₂, frame, hsecond, hwithin, hstarts₂⟩ :=
    step_return limit caller stack hstruck hprimed w
  obtain ⟨world₃, caller', frame', hthird, hstruck', hstarts₃⟩ :=
    step_flush limit (.callback (some (Struck.echo world.provider).id)) (frame :: stack) hlimit
      hstruck hwithin
  rw [hfirst, hsecond, hthird]
  refine ⟨List.cons_ne_nil _ _, List.cons_ne_nil _ _, ?_, ?_⟩
  · exact ⟨world₃, caller', frame', frame :: stack, rfl, hstruck'⟩
  · simp only [startCount]
    omega

end Machine

namespace ClockSession

open VirtualClock (echoing)

/-- The harness flushes an echoing timer. -/
def echoActions : List (Action TimerId) :=
  [.schedule .page .repeating (.ofMillis 10) none echoing, .drain .flush]

section Rounds

variable {limit : Nat} {globals : Globals} {actions : List (Action TimerId)} {n : Nat}

/-- While a request waits, the machine takes its steps. -/
theorem machine_after_succ (hstack : ((fresh globals actions).after limit n).machine.stack ≠ []) :
    ((fresh globals actions).after limit (n + 1)).machine =
      ((fresh globals actions).after limit n).machine.step (VirtualClock.provider limit) := by
  have hsettled : ((fresh globals actions).after limit n).machine.Settled :=
    Session.settled_after (Session.settled_start _ _) n
  have hrunning : ((fresh globals actions).after limit n).machine.ended? = none := by
    cases hended : ((fresh globals actions).after limit n).machine.ended? with
    | none => rfl
    | some ended => exact absurd (hsettled (by rw [hended]; rfl)) hstack
  exact congrArg Session.machine (Session.step_of_running hrunning)

/-- One round of the circle, in which a flush waits at every step. -/
theorem echo_round (hlimit : 2 ≤ limit)
    (hecho : ((fresh globals actions).after limit n).machine.Echoing) :
    (∀ r, r < 3 → ((fresh globals actions).after limit (n + r)).machine.stack ≠ []) ∧
    ((fresh globals actions).after limit (n + 3)).machine.Echoing ∧
    ((fresh globals actions).after limit n).machine.startCount <
      ((fresh globals actions).after limit (n + 3)).machine.startCount := by
  obtain ⟨hfirst, hsecond, hthird, hstarts⟩ := hecho.three_steps hlimit
  have hzero : ((fresh globals actions).after limit n).machine.stack ≠ [] := by
    obtain ⟨_, _, _, _, hm, -⟩ := hecho
    rw [hm]
    exact List.cons_ne_nil _ _
  rw [← machine_after_succ hzero] at hfirst hsecond hthird hstarts
  rw [← machine_after_succ hfirst] at hsecond hthird hstarts
  rw [← machine_after_succ hsecond] at hthird hstarts
  refine ⟨fun r hr => ?_, hthird, hstarts⟩
  match r, hr with
  | 0, _ => exact hzero
  | 1, _ => exact hfirst
  | 2, _ => exact hsecond

end Rounds

/-- Round after round of the circle. -/
theorem echo_rounds (k : Nat) :
    ((fresh .empty echoActions).after 3 (6 + 3 * k)).machine.Echoing ∧
      k < ((fresh .empty echoActions).after 3 (6 + 3 * k)).machine.startCount := by
  induction k with
  | zero =>
      refine ⟨⟨_, _, _, _, rfl, ?_⟩, by decide⟩
      exact ⟨rfl, by decide, rfl, rfl, rfl, rfl, rfl, by decide⟩
  | succ k ih =>
      obtain ⟨-, hnext, hstarts⟩ := echo_round (Nat.le_succ 2) ih.1
      exact ⟨hnext, Nat.lt_of_le_of_lt ih.2 hstarts⟩

/-- The harness flushes with a limit of three callbacks, and from then on
there is always a flush that waits; there is no bound on the callbacks. -/
theorem echo_never_returns :
    ((fresh .empty echoActions).after 3 5).contact? 3 = some (.ask (.drain .flush)) ∧
    ((fresh .empty echoActions).after 3 5).machine.stack = [] ∧
    (∀ n, 5 < n → ((fresh .empty echoActions).after 3 n).machine.stack ≠ []) ∧
    ∀ bound, ∃ n, bound < (((fresh .empty echoActions).after 3 n).machine.world.log.filterMap
      Entry.start?).length := by
  refine ⟨rfl, rfl, fun n hn => ?_, fun bound => ⟨_, (echo_rounds bound).2⟩⟩
  have hparts : n = 6 + 3 * ((n - 6) / 3) + (n - 6) % 3 := by omega
  rw [hparts]
  exact (echo_round (Nat.le_succ 2) (echo_rounds _).1).1 _ (Nat.mod_lt _ (by decide))

end ClockSession

end PageTimers
