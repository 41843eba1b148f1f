/-
# How a drain comes to its end

What the machine makes of a drain, put in terms of turns.  `Leads m m'` says
that the machine comes from `m` to `m'`, whatever fuel it is given to go on
with.  A turn of a drain leads from `continuing` to `continuing`,

    continuing goal (left + 1) ran world   ⟶   continuing goal left (ran + 1) (world.turn …)

whatever waits below it, so a drain leads through all the timers that `Fires`
lists (`continuing_turns`).  A drain of the harness has nothing below it
(`draining`), and comes to one of four ends: nothing is due any more, the
limit is reached, a callback throws, or the drain was refused to begin with.

For the harness an action *comes back* if it returns, given time (`Turn.Comes`).
That is settled by where the machine leads, so there is at most one world to
come back to.
-/
import PageTimers.Proofs.Program.Turns

namespace PageTimers

/-! ## Where a machine leads -/

namespace Machine

variable {σ κ ι : Type} [DecidableEq ι] [Identifier ι] {P : Provider σ κ ι (Handler ι)}
  {m m' m'' : Machine σ κ ι}

theorem run_of_ended (h : m.ended?.isSome) (fuel : Nat) : run P fuel m = m := by
  obtain ⟨ended, hended⟩ := Option.isSome_iff_exists.mp h
  cases fuel with
  | zero => rfl
  | succ fuel => rw [run, hended]

theorem run_add (fuel k : Nat) (m : Machine σ κ ι) :
    run P (fuel + k) m = run P k (run P fuel m) := by
  induction fuel generalizing m with
  | zero => rw [Nat.zero_add]; rfl
  | succ fuel ih =>
      rw [Nat.add_right_comm, run, run]
      cases hm : m.ended? with
      | some ended => exact (run_of_ended (by rw [hm]; rfl) k).symm
      | none => exact ih (m.step P)

/-- The machine comes from `m` to `m'`. -/
def Leads (P : Provider σ κ ι (Handler ι)) (m m' : Machine σ κ ι) : Prop :=
  ∃ k, ∀ fuel, run P (fuel + k) m = run P fuel m'

theorem Leads.refl (m : Machine σ κ ι) : Leads P m m := ⟨0, fun _ => rfl⟩

theorem Leads.trans (h : Leads P m m') (h' : Leads P m' m'') : Leads P m m'' := by
  obtain ⟨k, hk⟩ := h
  obtain ⟨k', hk'⟩ := h'
  refine ⟨k' + k, fun fuel => ?_⟩
  rw [← Nat.add_assoc, hk, hk']

theorem leads_step (m : Machine σ κ ι) : Leads P m (m.step P) := by
  refine ⟨1, fun fuel => ?_⟩
  obtain ⟨world, control, stack⟩ := m
  cases control with
  | halt ended => exact (run_of_ended rfl fuel).symm
  | run caller actions => rfl
  | unwind => rfl

theorem leads_run (fuel : Nat) (m : Machine σ κ ι) : Leads P m (run P fuel m) := by
  refine ⟨fuel, fun k => ?_⟩
  rw [Nat.add_comm, run_add]

/-- A machine comes to one end at most. -/
theorem Leads.unique (h : Leads P m m') (h' : Leads P m m'') (hm' : m'.ended?.isSome)
    (hm'' : m''.ended?.isSome) : m' = m'' := by
  obtain ⟨k, hk⟩ := h
  obtain ⟨k', hk'⟩ := h'
  calc m' = run P k' m' := (run_of_ended hm' k').symm
    _ = run P (k' + k) m := (hk k').symm
    _ = run P (k + k') m := by rw [Nat.add_comm]
    _ = run P k m'' := hk' k
    _ = m'' := run_of_ended hm'' k

end Machine

/-! ## Actions that come back -/

namespace Turn

variable {σ κ ι : Type} [DecidableEq ι] [Identifier ι] {P : Provider σ κ ι (Handler ι)}
  {action : Action ι} {world world' : World σ ι} {turn turn' : Turn ι}

theorem takeAll_cons (P : Provider σ κ ι (Handler ι)) (fuel : Nat) (action : Action ι)
    (rest : List (Action ι)) (world : World σ ι) : takeAll P fuel (action :: rest) world =
      (take P fuel action world).2 :: takeAll P fuel rest (take P fuel action world).1 := rfl

/-- What the harness sees of an action that has come back. -/
def seen (P : Provider σ κ ι (Handler ι)) (world : World σ ι) : Turn ι where
  ended := some .returned
  result := world.log.findSome? Entry.harnessResult?
  log := (world.log.filter Entry.isOfCallback).reverse
  journal := world.journal.reverse
  now := P.now world.provider
  pending := P.pending world.provider
  outstanding := world.page.outstanding.map (·.sorted)
  completed := world.page.completed

/-- The action comes back, given time: it leaves `world'`, and `turn` is what
the harness sees of it. -/
def Comes (P : Provider σ κ ι (Handler ι)) (action : Action ι) (world world' : World σ ι)
    (turn : Turn ι) : Prop :=
  ∃ fuel, take P fuel action world = (world', turn) ∧ turn.ended = some .returned

theorem comes_of_leads {stack : List (Waiting κ ι × κ)}
    (h : Machine.Leads P (.load world.forget [action]) ⟨world', .halt .returned, stack⟩) :
    Comes P action world world' (seen P world') := by
  obtain ⟨k, hk⟩ := h
  refine ⟨0 + k, ?_, rfl⟩
  have hrun : Machine.run P (0 + k) (.load world.forget [action]) =
      ⟨world', .halt .returned, stack⟩ := hk 0
  simp only [take, World.perform, hrun]
  rfl

theorem Comes.leads (h : Comes P action world world' turn) :
    turn = seen P world' ∧ ∃ stack : List (Waiting κ ι × κ),
      Machine.Leads P (.load world.forget [action]) ⟨world', .halt .returned, stack⟩ := by
  obtain ⟨fuel, htake, hreturned⟩ := h
  have hleads := Machine.leads_run (P := P) fuel (.load world.forget [action])
  simp only [take, World.perform, Prod.mk.injEq] at htake
  obtain ⟨hworld, rfl⟩ := htake
  generalize Machine.run P fuel (.load world.forget [action]) = m at *
  obtain ⟨w, control, stack⟩ := m
  cases control with
  | halt ended =>
      cases hreturned
      cases hworld
      exact ⟨rfl, stack, hleads⟩
  | run caller actions => cases hreturned
  | unwind => cases hreturned

/-- It comes back to the same place whatever fuel it is given, if it is enough. -/
theorem Comes.eventually (h : Comes P action world world' turn) :
    ∃ enough, ∀ fuel, enough ≤ fuel → take P fuel action world = (world', turn) := by
  obtain ⟨enough, htake, hreturned⟩ := h
  refine ⟨enough, fun fuel hle => ?_⟩
  obtain ⟨k, rfl⟩ := Nat.exists_eq_add_of_le hle
  have hended : (Machine.run P enough (Machine.load world.forget [action])).ended? =
      some .returned := by
    rw [← hreturned, ← congrArg (·.2.ended) htake]
    rfl
  have hrun : Machine.run P (enough + k) (Machine.load world.forget [action]) =
      Machine.run P enough (Machine.load world.forget [action]) := by
    rw [Machine.run_add, Machine.run_of_ended (by rw [hended]; rfl)]
  rw [← htake, take, take, World.perform, World.perform, hrun]

/-- An action comes back only to where the machine leads. -/
theorem Comes.of_leads {ended : Ended} {w : World σ ι} {stack : List (Waiting κ ι × κ)}
    (h : Comes P action world world' turn)
    (hleads : Machine.Leads P (.load world.forget [action]) ⟨w, .halt ended, stack⟩) :
    ended = .returned ∧ world' = w ∧ turn = seen P w := by
  obtain ⟨hturn, stack', hleads'⟩ := h.leads
  cases hleads'.unique hleads rfl rfl
  exact ⟨rfl, rfl, hturn⟩

/-- There is one world to come back to, and one thing to see. -/
theorem Comes.unique (h : Comes P action world world' turn) {w : World σ ι}
    (h' : Comes P action world w turn') : w = world' ∧ turn' = turn := by
  obtain ⟨hturn, stack, hleads⟩ := h.leads
  obtain ⟨-, hworld, hturn'⟩ := h'.of_leads hleads
  exact ⟨hworld, hturn'.trans hturn.symm⟩

end Turn

/-! ## Drains -/

namespace World

/-- Nothing is left to run: the clock moves on to the goal. -/
def reached (goal : VirtualClock.Goal) (ran : Nat) (world : ClockWorld) : ClockWorld :=
  { world with provider := world.provider.reach goal }.journaled
    (VirtualClock.reachEvents goal ran world.provider)

/-- The callback that runs has thrown. -/
def throwCallback (world : ClockWorld) : ClockWorld := { world with provider := world.provider.rest }

/-- A drain of the harness is answered. -/
def answerDrain (drain : Drain) (result : Except TimerError (Answer TimerId)) (world : ClockWorld) :
    ClockWorld :=
  world.record (.did .harness (.drain drain) (.answered result))

end World

namespace Machine

variable {limit : Nat} {drain : Drain} {goal : VirtualClock.Goal} {left ran : Nat}
  {world : ClockWorld} {caller : Caller TimerId} {actions : List (Action TimerId)}
  {timer : QueuedTimer (Handler TimerId)} {timers : List (QueuedTimer (Handler TimerId))}
  {w : Waiting (VirtualClock.UnderWay (Handler TimerId)) TimerId}
  {stack : List (Waiting (VirtualClock.UnderWay (Handler TimerId)) TimerId ×
    VirtualClock.UnderWay (Handler TimerId))}

/-! ### Whatever waits -/

/-- Actions that neither drain nor throw are done one after the other. -/
theorem leads_actions (rest : List (Action TimerId)) (hdrain : ∀ a ∈ actions, a.isDrain = false)
    (hthrow : ∀ a ∈ actions, a.isThrow = false) :
    Leads (VirtualClock.provider limit) ⟨world, .run caller (actions ++ rest), stack⟩
      ⟨world.enact limit caller actions, .run caller rest, stack⟩ := by
  induction actions generalizing world with
  | nil => exact .refl _
  | cons action actions ih =>
      have hstep := leads_step (P := VirtualClock.provider limit)
        ⟨world, .run caller (action :: (actions ++ rest)), stack⟩
      rw [World.step_act (hdrain action List.mem_cons_self)
        (hthrow action List.mem_cons_self)] at hstep
      exact hstep.trans (ih (fun a ha => hdrain a (List.mem_cons_of_mem _ ha))
        fun a ha => hthrow a (List.mem_cons_of_mem _ ha))

/-- Where one of them throws, those before it are done. -/
theorem leads_actions_throw (hdrain : ∀ a ∈ actions, a.isDrain = false)
    (hthrow : ¬ ∀ a ∈ actions, a.isThrow = false) :
    Leads (VirtualClock.provider limit) ⟨world, .run caller actions, stack⟩
      ⟨world.enact limit caller (actions.takeWhile fun a => !a.isThrow), .unwind, stack⟩ := by
  induction actions generalizing world with
  | nil => exact absurd (fun a ha => absurd ha List.not_mem_nil) hthrow
  | cons action actions ih =>
      have hstep := leads_step (P := VirtualClock.provider limit)
        ⟨world, .run caller (action :: actions), stack⟩
      cases haction : action.isThrow with
      | true =>
          rw [World.step_throw haction] at hstep
          rw [List.takeWhile_cons_of_neg (by simp [haction])]
          exact hstep
      | false =>
          rw [World.step_act (hdrain action List.mem_cons_self) haction] at hstep
          rw [List.takeWhile_cons_of_pos (by simp [haction])]
          have hlater : ¬ ∀ a ∈ actions, a.isThrow = false :=
            fun h => hthrow (List.forall_mem_cons.mpr ⟨haction, h⟩)
          exact hstep.trans (ih (fun a ha => hdrain a (List.mem_cons_of_mem _ ha)) hlater)

/-- The drain that `w` waits for goes on.  It has started `ran` callbacks and
may start `left` more. -/
def continuing (limit : Nat) (w : Waiting (VirtualClock.UnderWay (Handler TimerId)) TimerId)
    (stack : List (Waiting (VirtualClock.UnderWay (Handler TimerId)) TimerId ×
      VirtualClock.UnderWay (Handler TimerId)))
    (goal : VirtualClock.Goal) (left ran : Nat) (world : ClockWorld) : ClockMachine :=
  settle (VirtualClock.provider limit) world w stack
    (VirtualClock.proceed goal left ran world.provider)

theorem continuing_start (hnext : world.provider.next? goal.deadline = some timer) :
    continuing limit w stack goal (left + 1) ran world =
      ⟨world.startCallback timer, .run (.callback (some timer.id)) timer.script,
        (w, ⟨goal, left, ran + 1, timer⟩) :: stack⟩ := by
  simp only [continuing, VirtualClock.proceed, hnext]
  rfl

/-- Nothing is due any more. -/
theorem continuing_quiet (hnext : world.provider.next? goal.deadline = none) :
    continuing limit w stack goal left ran world =
      ⟨answered (world.reached goal ran) w (.ok (.ran ran)), .run w.caller w.rest, stack⟩ := by
  simp only [continuing, VirtualClock.proceed, hnext]
  rfl

/-- The drain has started as many callbacks as it may. -/
theorem continuing_limited (hnext : world.provider.next? goal.deadline = some timer) :
    continuing limit w stack goal 0 ran world =
      ⟨answered world w (.error (.stepLimitExceeded ran)), .run w.caller w.rest, stack⟩ := by
  simp only [continuing, VirtualClock.proceed, hnext]
  rfl

/-- The callback that is started comes to its end. -/
theorem continuing_callback (hnext : world.provider.next? goal.deadline = some timer)
    (hdrain : ∀ a ∈ timer.script, a.isDrain = false) (hreturns : timer.Returns) :
    Leads (VirtualClock.provider limit) (continuing limit w stack goal (left + 1) ran world)
      ⟨(world.startCallback timer).enact limit (.callback (some timer.id)) timer.script,
        .run (.callback (some timer.id)) [], (w, ⟨goal, left, ran + 1, timer⟩) :: stack⟩ := by
  have hall : Leads (VirtualClock.provider limit)
      ⟨world.startCallback timer, .run (.callback (some timer.id)) (timer.script ++ []),
        (w, ⟨goal, left, ran + 1, timer⟩) :: stack⟩ _ := leads_actions [] hdrain hreturns
  rw [List.append_nil] at hall
  rw [continuing_start hnext]
  exact hall

/-- A turn of a drain. -/
theorem continuing_turn (hnext : world.provider.next? goal.deadline = some timer)
    (hdrain : ∀ a ∈ timer.script, a.isDrain = false) (hreturns : timer.Returns) :
    Leads (VirtualClock.provider limit) (continuing limit w stack goal (left + 1) ran world)
      (continuing limit w stack goal left (ran + 1) (world.turn limit timer)) :=
  (continuing_callback hnext hdrain hreturns).trans (leads_step _)

theorem continuing_turns {I : ClockWorld → Prop} (hI : World.Undraining limit I) (hworld : I world)
    (hfires : World.Fires limit goal.deadline world timers) :
    Leads (VirtualClock.provider limit)
      (continuing limit w stack goal (left + timers.length) ran world)
      (continuing limit w stack goal left (ran + timers.length) (world.turns limit timers)) := by
  generalize hdeadline : goal.deadline = deadline at hfires
  induction hfires generalizing ran with
  | nil => exact .refl _
  | @cons world timer timers hnext hreturns _ ih =>
      subst hdeadline
      have hturn : Leads (VirtualClock.provider limit)
          (continuing limit w stack goal (left + timers.length + 1) ran world)
          (continuing limit w stack goal (left + timers.length) (ran + 1)
            (world.turn limit timer)) :=
        continuing_turn hnext (hI.undrained hworld hnext) hreturns
      have hrest : Leads (VirtualClock.provider limit)
          (continuing limit w stack goal (left + timers.length) (ran + 1) (world.turn limit timer))
          (continuing limit w stack goal left (ran + 1 + timers.length)
            ((world.turn limit timer).turns limit timers)) := ih (hI.turn hworld hnext)
      rw [Nat.add_right_comm] at hrest
      exact hturn.trans hrest

/-- The callback that is started throws. -/
theorem continuing_thrown (hnext : world.provider.next? goal.deadline = some timer)
    (hdrain : ∀ a ∈ timer.script, a.isDrain = false) (hthrows : ¬ timer.Returns) :
    Leads (VirtualClock.provider limit) (continuing limit w stack goal (left + 1) ran world)
      ⟨((world.startCallback timer).enact limit (.callback (some timer.id))
          (timer.script.takeWhile fun a => !a.isThrow)).throwCallback, .unwind, stack⟩ := by
  rw [continuing_start hnext]
  exact (leads_actions_throw hdrain hthrows).trans (leads_step _)

/-! ### A drain of the harness -/

/-- The harness waits for a drain. -/
def waitsFor (drain : Drain) : Waiting (VirtualClock.UnderWay (Handler TimerId)) TimerId :=
  ⟨.harness, .drain drain, .drain drain, false, []⟩

/-- A drain goes on.  It has started `ran` callbacks and may start `left` more. -/
def draining (limit : Nat) (drain : Drain) (goal : VirtualClock.Goal) (left ran : Nat)
    (world : ClockWorld) : ClockMachine :=
  settle (VirtualClock.provider limit) world (waitsFor drain) []
    (VirtualClock.proceed goal left ran world.provider)

/-- A drain waits for the callback of a timer, which is to do these actions yet. -/
def calling (drain : Drain) (goal : VirtualClock.Goal) (left ran : Nat)
    (timer : QueuedTimer (Handler TimerId)) (actions : List (Action TimerId)) (world : ClockWorld) :
    ClockMachine :=
  ⟨world, .run (.callback (some timer.id)) actions, [(waitsFor drain, ⟨goal, left, ran, timer⟩)]⟩

theorem leads_callback (hnext : world.provider.next? goal.deadline = some timer)
    (hdrain : ∀ a ∈ timer.script, a.isDrain = false) (hreturns : timer.Returns) :
    Leads (VirtualClock.provider limit) (draining limit drain goal (left + 1) ran world)
      (calling drain goal left (ran + 1) timer []
        ((world.startCallback timer).enact limit (.callback (some timer.id)) timer.script)) :=
  continuing_callback hnext hdrain hreturns

theorem leads_turns {I : ClockWorld → Prop} (hI : World.Undraining limit I) (hworld : I world)
    (hfires : World.Fires limit goal.deadline world timers) :
    Leads (VirtualClock.provider limit) (draining limit drain goal (left + timers.length) ran world)
      (draining limit drain goal left (ran + timers.length) (world.turns limit timers)) :=
  continuing_turns hI hworld hfires

/-! ### The four ends -/

theorem leads_halt : Leads (VirtualClock.provider limit) (⟨world, .run caller [], []⟩ : ClockMachine)
    ⟨world, .halt .returned, []⟩ :=
  leads_step _

/-- Nothing is due any more. -/
theorem leads_quiet (hnext : world.provider.next? goal.deadline = none) :
    Leads (VirtualClock.provider limit) (draining limit drain goal left ran world)
      ⟨(world.reached goal ran).answerDrain drain (.ok (.ran ran)), .halt .returned, []⟩ := by
  have hanswered : draining limit drain goal left ran world =
      ⟨(world.reached goal ran).answerDrain drain (.ok (.ran ran)), .run .harness [], []⟩ :=
    continuing_quiet hnext
  rw [hanswered]
  exact leads_halt

/-- The drain has started as many callbacks as it may. -/
theorem leads_limited (hnext : world.provider.next? goal.deadline = some timer) :
    Leads (VirtualClock.provider limit) (draining limit drain goal 0 ran world)
      ⟨world.answerDrain drain (.error (.stepLimitExceeded ran)), .halt .returned, []⟩ := by
  have hanswered : draining limit drain goal 0 ran world =
      ⟨world.answerDrain drain (.error (.stepLimitExceeded ran)), .run .harness [], []⟩ :=
    continuing_limited hnext
  rw [hanswered]
  exact leads_halt

/-- The callback that is started throws. -/
theorem leads_thrown (hnext : world.provider.next? goal.deadline = some timer)
    (hdrain : ∀ a ∈ timer.script, a.isDrain = false) (hthrows : ¬ timer.Returns) :
    ∃ world', Leads (VirtualClock.provider limit) (draining limit drain goal (left + 1) ran world)
      ⟨world', .halt .thrown, []⟩ :=
  ⟨_, (continuing_thrown hnext hdrain hthrows).trans (leads_step _)⟩

/-- The clock cannot be moved on so far. -/
theorem leads_refused {e : TimerError} (h : VirtualClock.Goal.of drain world.provider.now = .error e) :
    Leads (VirtualClock.provider limit) (load world [.drain drain])
      ⟨world.answerDrain drain (.error e), .halt .returned, []⟩ := by
  have hstep := leads_step (P := VirtualClock.provider limit)
    (load world [.drain drain] : ClockMachine)
  simp only [load, step, plan, VirtualClock.provider, VirtualClock.ask, h] at hstep
  exact hstep.trans leads_halt

theorem leads_load (h : VirtualClock.Goal.of drain world.provider.now = .ok goal) :
    Leads (VirtualClock.provider limit) (load world [.drain drain])
      (draining limit drain goal (VirtualClock.clampLimit limit) 0 world) := by
  have hstep := leads_step (P := VirtualClock.provider limit)
    (load world [.drain drain] : ClockMachine)
  simp only [load, step, plan, VirtualClock.provider, VirtualClock.ask, h] at hstep
  exact hstep

end Machine

/-! ### As the harness sees it -/

namespace Turn

variable {limit count : Nat} {drain : Drain} {goal : VirtualClock.Goal} {world world' : ClockWorld}
  {turn : Turn TimerId} {timer : QueuedTimer (Handler TimerId)}
  {timers : List (QueuedTimer (Handler TimerId))} {p : Action TimerId → Bool}

/-- An action that neither drains nor throws comes back at once. -/
theorem comes_act {action : Action TimerId} (hdrain : action.isDrain = false)
    (hthrow : action.isThrow = false) :
    Comes (VirtualClock.provider limit) action world (World.act limit .harness world.forget action)
      (seen (VirtualClock.provider limit) (World.act limit .harness world.forget action)) := by
  have hstep := Machine.leads_step (P := VirtualClock.provider limit)
    (.load world.forget [action] : ClockMachine)
  rw [Machine.load, World.step_act hdrain hthrow] at hstep
  exact comes_of_leads (hstep.trans Machine.leads_halt)

section Undraining

variable {I : ClockWorld → Prop} (hI : World.Undraining limit I) (hworld : I world.forget)
  (hgoal : VirtualClock.Goal.of drain world.provider.now = .ok goal)
  (hfires : World.Fires limit goal.deadline world.forget timers)

include hI hworld hgoal hfires

theorem leads_while (hle : timers.length ≤ VirtualClock.clampLimit limit) :
    Machine.Leads (VirtualClock.provider limit) (.load world.forget [.drain drain])
      (.draining limit drain goal (VirtualClock.clampLimit limit - timers.length) timers.length
        (world.forget.turns limit timers)) := by
  have hload : Machine.Leads (VirtualClock.provider limit) (.load world.forget [.drain drain])
      (.draining limit drain goal (VirtualClock.clampLimit limit) 0 world.forget) :=
    Machine.leads_load hgoal
  have hturns : Machine.Leads (VirtualClock.provider limit)
      (.draining limit drain goal
        (VirtualClock.clampLimit limit - timers.length + timers.length) 0 world.forget)
      (.draining limit drain goal (VirtualClock.clampLimit limit - timers.length) (0 + timers.length)
        (world.forget.turns limit timers)) := Machine.leads_turns hI hworld hfires
  rw [Nat.sub_add_cancel hle, Nat.zero_add] at hturns
  exact hload.trans hturns

/-- A drain after which nothing is due tells how many callbacks it ran. -/
theorem comes_when_quiet (hle : timers.length ≤ VirtualClock.clampLimit limit)
    (hnone : (world.forget.turns limit timers).provider.next? goal.deadline = none) :
    let last := ((world.forget.turns limit timers).reached goal timers.length).answerDrain drain
      (.ok (.ran timers.length))
    Comes (VirtualClock.provider limit) (.drain drain) world last
      (seen (VirtualClock.provider limit) last) :=
  comes_of_leads ((leads_while hI hworld hgoal hfires hle).trans (Machine.leads_quiet hnone))

/-- A drain that comes to its limit stops before the next timer. -/
theorem comes_at_limit (hlength : timers.length = VirtualClock.clampLimit limit)
    (hsome : (world.forget.turns limit timers).provider.next? goal.deadline = some timer) :
    let last := (world.forget.turns limit timers).answerDrain drain
      (.error (.stepLimitExceeded (VirtualClock.clampLimit limit)))
    Comes (VirtualClock.provider limit) (.drain drain) world last
      (seen (VirtualClock.provider limit) last) := by
  have hleads := leads_while hI hworld hgoal hfires (Nat.le_of_eq hlength)
  rw [hlength, Nat.sub_self] at hleads
  exact comes_of_leads (hleads.trans (Machine.leads_limited hsome))

end Undraining

/-- A drain that tells how many callbacks it ran has run those that were due,
as many as it may at most. -/
theorem Comes.ran {I : ClockWorld → Prop} (hI : World.Undraining limit I) (hworld : I world.forget)
    (h : Comes (VirtualClock.provider limit) (.drain drain) world world' turn)
    (hresult : turn.result = some (.answered (.ok (.ran count)))) :
    ∃ goal timers, VirtualClock.Goal.of drain world.provider.now = .ok goal ∧
      World.Fires limit goal.deadline world.forget timers ∧ timers.length = count ∧
      count ≤ VirtualClock.clampLimit limit ∧
      (world.forget.turns limit timers).provider.next? goal.deadline = none ∧
      world' = ((world.forget.turns limit timers).reached goal count).answerDrain drain
        (.ok (.ran count)) := by
  cases hgoal : VirtualClock.Goal.of drain world.provider.now with
  | error e =>
      obtain ⟨-, -, rfl⟩ := h.of_leads (Machine.leads_refused hgoal)
      cases hresult
  | ok goal =>
      obtain ⟨timers, hfires, hstops⟩ := World.exists_fires limit goal.deadline
        (VirtualClock.clampLimit limit) world.forget
      cases hstops with
      | quiet hnone hle =>
          obtain ⟨hlast, hturn⟩ := (comes_when_quiet hI hworld hgoal hfires hle hnone).unique h
          rw [hturn] at hresult
          cases hresult
          exact ⟨goal, timers, rfl, hfires, rfl, hle, hnone, hlast⟩
      | limited hsome hlength =>
          obtain ⟨-, hturn⟩ := (comes_at_limit hI hworld hgoal hfires hlength hsome).unique h
          rw [hturn] at hresult
          cases hresult
      | throws hsome hthrows hlt =>
          have hleads := leads_while hI hworld hgoal hfires (Nat.le_of_lt hlt)
          obtain ⟨left, hleft⟩ := Nat.exists_eq_succ_of_ne_zero (Nat.sub_ne_zero_of_lt hlt)
          rw [hleft] at hleads
          have hafter : I (world.forget.turns limit timers) :=
            hfires.invariant (fun _ _ hworld hnext => hI.turn hworld hnext) hworld
          obtain ⟨w, hthrown⟩ := Machine.leads_thrown hsome (hI.undrained hafter hsome) hthrows
          obtain ⟨hended, -⟩ := h.of_leads (hleads.trans hthrown)
          cases hended

/-! ### Where the callbacks that wait never drain -/

section Obeys

variable (hp : ∀ drain, p (.drain drain) = false) (hobeys : world.Obeys p)
  (hgoal : VirtualClock.Goal.of drain world.provider.now = .ok goal)
  (hfires : World.Fires limit goal.deadline world.forget timers)

include hp hobeys hgoal hfires

theorem leads_fires (hle : timers.length ≤ VirtualClock.clampLimit limit) :
    Machine.Leads (VirtualClock.provider limit) (.load world.forget [.drain drain])
      (.draining limit drain goal (VirtualClock.clampLimit limit - timers.length) timers.length
        (world.forget.turns limit timers)) :=
  leads_while (World.undraining_obeys hp) hobeys hgoal hfires hle

theorem comes_quiet (hle : timers.length ≤ VirtualClock.clampLimit limit)
    (hnone : (world.forget.turns limit timers).provider.next? goal.deadline = none) :
    let last := ((world.forget.turns limit timers).reached goal timers.length).answerDrain drain
      (.ok (.ran timers.length))
    Comes (VirtualClock.provider limit) (.drain drain) world last
      (seen (VirtualClock.provider limit) last) :=
  comes_when_quiet (World.undraining_obeys hp) hobeys hgoal hfires hle hnone

theorem comes_limited (hlength : timers.length = VirtualClock.clampLimit limit)
    (hsome : (world.forget.turns limit timers).provider.next? goal.deadline = some timer) :
    let last := (world.forget.turns limit timers).answerDrain drain
      (.error (.stepLimitExceeded (VirtualClock.clampLimit limit)))
    Comes (VirtualClock.provider limit) (.drain drain) world last
      (seen (VirtualClock.provider limit) last) :=
  comes_at_limit (World.undraining_obeys hp) hobeys hgoal hfires hlength hsome

end Obeys

theorem Comes.fires (hp : ∀ drain, p (.drain drain) = false) (hobeys : world.Obeys p)
    (h : Comes (VirtualClock.provider limit) (.drain drain) world world' turn)
    (hresult : turn.result = some (.answered (.ok (.ran count)))) :
    ∃ goal timers, VirtualClock.Goal.of drain world.provider.now = .ok goal ∧
      World.Fires limit goal.deadline world.forget timers ∧ timers.length = count ∧
      count ≤ VirtualClock.clampLimit limit ∧
      (world.forget.turns limit timers).provider.next? goal.deadline = none ∧
      world' = ((world.forget.turns limit timers).reached goal count).answerDrain drain
        (.ok (.ran count)) :=
  h.ran (World.undraining_obeys hp) hobeys hresult

end Turn

end PageTimers
