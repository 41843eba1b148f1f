/-
# A drain without a limit, turn by turn

The machine runs a callback in small steps, with the drain that waits for it
on its stack.  Where callbacks do not drain, nothing of this can be seen from
outside: every action of a callback is done at once, whatever waits below.
So a drain comes down to turns,

    start the timer that is due first
    do what its callback does           (`World.enact`)
    arm the timer again, or drop it

and each turn is a function of the world (`World.turn`).  A drain is given by
the timers that it starts: `Fires deadline world timers` says that a drain
with this deadline, if nothing limits it, starts these timers one after the
other, and their callbacks return; the world that they leave is
`world.turns timers`.

Two things are needed again and again.  No action looks at the records of the
world, its log and its journal, so these can be put aside (`onto`).  And the
limit of the drain shows in a debugging view only, so worlds that are alike
but for their records stay so under any two limits (`Matches`).
-/
import PageTimers.Proofs.Clock.Obedience
import PageTimers.Proofs.Clock.Selection

namespace PageTimers

/-! ## Records -/

namespace World

variable {σ κ ι : Type}

/-- The same world, with its records on top of those of another. -/
def onto (world base : World σ ι) : World σ ι :=
  { world with log := world.log ++ base.log, journal := world.journal ++ base.journal }

theorem forget_onto (world : World σ ι) : world.forget.onto world = world := rfl

@[simp] theorem onto_page (world base : World σ ι) : (world.onto base).page = world.page := rfl

@[simp] theorem record_onto (world base : World σ ι) (entry : Entry ι) :
    (world.onto base).record entry = (world.record entry).onto base := rfl

@[simp] theorem journaled_onto (world base : World σ ι) (events : List (Event ι)) :
    (world.onto base).journaled events = (world.journaled events).onto base := by
  simp [journaled, onto]

@[simp] theorem turnPage_onto (world base : World σ ι) (change : Page ι × List (Event ι)) :
    (world.onto base).turnPage change = (world.turnPage change).onto base :=
  journaled_onto { world with page := change.1 } base change.2

@[simp] theorem bindName_onto (world base : World σ ι) (action : Action ι)
    (result : Except TimerError (Answer ι)) :
    (world.onto base).bindName action result = (world.bindName action result).onto base := by
  unfold bindName; split <;> rfl

end World

/-- The same machine, with its records on top of those of another world. -/
def Machine.onto {σ κ ι : Type} (m : Machine σ κ ι) (base : World σ ι) : Machine σ κ ι :=
  { m with world := m.world.onto base }

/-- The plan, with the records of the world on top of others. -/
def Plan.onto {σ ι : Type} (base : World σ ι) : Plan σ ι → Plan σ ι
  | .finish result world => .finish result (world.onto base)
  | .ask request watched => .ask request watched
  | .throw => .throw

namespace Machine

variable {σ κ ι : Type} [DecidableEq ι] [Identifier ι] {P : Provider σ κ ι (Handler ι)}

theorem plan_onto (world base : World σ ι) (caller : Caller ι) (action : Action ι) :
    plan P (world.onto base) caller action = (plan P world caller action).onto base := by
  have hresolve : ∀ target, (world.onto base).resolve caller target = world.resolve caller target := by
    rintro (id | name | _) <;> rfl
  cases action with
  | installMonitor settings =>
      cases settings with
      | error e => rfl
      | ok settings => simp only [plan, World.turnPage_onto]; rfl
  | installInterceptor | installProbes _ => simp only [plan, World.turnPage_onto]; rfl
  | completed => simp only [plan, World.journaled_onto]; rfl
  | clear route kind target =>
      simp only [plan, hresolve]
      cases world.resolve caller target <;> rfl
  | contains target =>
      simp only [plan, hresolve]
      cases world.resolve caller target <;> rfl
  | _ => rfl

omit [Identifier ι] in
theorem settle_onto (world base : World σ ι) (w : Waiting κ ι) (stack : List (Waiting κ ι × κ))
    (move : Move σ κ ι (Handler ι)) :
    settle P (world.onto base) w stack move = (settle P world w stack move).onto base := by
  have hmoved : { world.onto base with provider := move.state }.journaled move.events =
      ({ world with provider := move.state }.journaled move.events).onto base :=
    World.journaled_onto { world with provider := move.state } base move.events
  unfold settle
  rw [hmoved]
  cases move.outcome with
  | answer result =>
      simp only [answered, onto]
      split <;> simp
  | invoke firing suspended => rfl
  | rethrow => rfl

/-- A machine does not look at its records. -/
theorem step_onto (m : Machine σ κ ι) (base : World σ ι) :
    (m.onto base).step P = (m.step P).onto base := by
  obtain ⟨world, control, stack⟩ := m
  cases control with
  | halt ended => rfl
  | unwind =>
      cases stack with
      | nil => rfl
      | cons frame stack => exact settle_onto ..
  | run caller actions =>
      cases actions with
      | nil =>
          cases stack with
          | nil => rfl
          | cons frame stack => exact settle_onto ..
      | cons action rest =>
          simp only [step, onto, plan_onto]
          cases plan P world caller action with
          | finish result world' => rfl
          | ask request watched => exact settle_onto ..
          | throw => rfl

end Machine

/-! ## What callbacks do -/

def Action.isThrow {ι : Type} : Action ι → Bool
  | .throw => true
  | _ => false

namespace QueuedTimer

/-- What the callback of a timer does on its next firing. -/
def script (timer : QueuedTimer (Handler TimerId)) : List (Action TimerId) :=
  timer.callback.actions timer.runs

/-- The callback returns, if it is let. -/
def Returns (timer : QueuedTimer (Handler TimerId)) : Prop :=
  ∀ a ∈ timer.script, a.isThrow = false

end QueuedTimer

namespace World

variable {limit limit' : Nat} {caller : Caller TimerId} {world world' base : ClockWorld}
  {action : Action TimerId} {actions : List (Action TimerId)}
  {timer : QueuedTimer (Handler TimerId)} {timers : List (QueuedTimer (Handler TimerId))}
  {deadline : Option Nat}

/-- What an action makes of the world, on a machine of its own. -/
def act (limit : Nat) (caller : Caller TimerId) (world : ClockWorld) (action : Action TimerId) :
    ClockWorld :=
  (Machine.step (VirtualClock.provider limit) ⟨world, .run caller [action], []⟩).world

/-- An action that neither drains nor throws is done at once, whatever waits. -/
theorem step_act (hdrain : action.isDrain = false) (hthrow : action.isThrow = false)
    (rest : List (Action TimerId)) (stack) :
    Machine.step (VirtualClock.provider limit) ⟨world, .run caller (action :: rest), stack⟩ =
      ⟨act limit caller world action, .run caller rest, stack⟩ := by
  simp only [Machine.step, act]
  cases hplan : Machine.plan (VirtualClock.provider limit) world caller action with
  | finish result world' => rfl
  | ask request watched =>
      rcases Machine.plan_ask hplan with ⟨_, _, _, _, _, rfl, rfl, rfl⟩ |
        ⟨_, _, _, _, rfl, -, rfl, rfl⟩ | ⟨_, rfl, -, -⟩
      · rfl
      · rfl
      · cases hdrain
  | throw =>
      rw [Machine.plan_throw hplan] at hthrow
      cases hthrow

/-- An action that throws changes nothing. -/
theorem step_throw (hthrow : action.isThrow = true) (rest : List (Action TimerId)) (stack) :
    Machine.step (VirtualClock.provider limit) ⟨world, .run caller (action :: rest), stack⟩ =
      ⟨world, .unwind, stack⟩ := by
  cases action with
  | throw => rfl
  | _ => cases hthrow

/-- One action after the other. -/
def enact (limit : Nat) (caller : Caller TimerId) (world : ClockWorld)
    (actions : List (Action TimerId)) : ClockWorld :=
  actions.foldl (act limit caller) world

/-- The world in which the callback of a timer begins. -/
def startCallback (world : ClockWorld) (timer : QueuedTimer (Handler TimerId)) : ClockWorld :=
  ({ world with provider := world.provider.start timer }.journaled
    [VirtualClock.startEvent timer world.provider]).record
      (.started timer.firing (world.provider.start timer).now)

/-- The world in which it has returned. -/
def endCallback (world : ClockWorld) (timer : QueuedTimer (Handler TimerId)) : ClockWorld :=
  { world with provider := world.provider.finish timer }

/-- A turn of a drain that takes this timer. -/
def turn (limit : Nat) (world : ClockWorld) (timer : QueuedTimer (Handler TimerId)) : ClockWorld :=
  (enact limit (.callback (some timer.id)) (world.startCallback timer) timer.script).endCallback timer

def turns (limit : Nat) (world : ClockWorld) (timers : List (QueuedTimer (Handler TimerId))) :
    ClockWorld :=
  timers.foldl (turn limit) world

/-- A drain with this deadline, if nothing limits it, starts these timers one
after the other, and their callbacks return.  It may go on. -/
inductive Fires (limit : Nat) (deadline : Option Nat) :
    ClockWorld → List (QueuedTimer (Handler TimerId)) → Prop
  | nil (world : ClockWorld) : Fires limit deadline world []
  | cons {world : ClockWorld} {timer : QueuedTimer (Handler TimerId)}
      {timers : List (QueuedTimer (Handler TimerId))} :
      world.provider.next? deadline = some timer → timer.Returns →
      Fires limit deadline (world.turn limit timer) timers →
      Fires limit deadline world (timer :: timers)

theorem turns_append (first second : List (QueuedTimer (Handler TimerId))) :
    world.turns limit (first ++ second) = (world.turns limit first).turns limit second :=
  List.foldl_append

theorem fires_append_iff {first second : List (QueuedTimer (Handler TimerId))} :
    Fires limit deadline world (first ++ second) ↔
      Fires limit deadline world first ∧ Fires limit deadline (world.turns limit first) second := by
  induction first generalizing world with
  | nil => exact ⟨fun h => ⟨.nil _, h⟩, And.right⟩
  | cons timer first ih =>
      constructor
      · intro h
        cases h with
        | cons hnext hreturns h =>
            obtain ⟨hfirst, hsecond⟩ := ih.mp h
            exact ⟨.cons hnext hreturns hfirst, hsecond⟩
      · rintro ⟨h, hsecond⟩
        cases h with
        | cons hnext hreturns hfirst => exact .cons hnext hreturns (ih.mpr ⟨hfirst, hsecond⟩)

/-! ### Records aside -/

theorem act_onto : act limit caller (world.onto base) action =
    (act limit caller world action).onto base :=
  congrArg Machine.world
    (Machine.step_onto (P := VirtualClock.provider limit) ⟨world, .run caller [action], []⟩ base)

theorem enact_onto : enact limit caller (world.onto base) actions =
    (enact limit caller world actions).onto base := by
  induction actions generalizing world with
  | nil => rfl
  | cons action actions ih =>
      rw [enact, List.foldl_cons, act_onto]
      exact ih

theorem startCallback_onto :
    (world.onto base).startCallback timer = (world.startCallback timer).onto base := rfl

theorem turn_onto : (world.onto base).turn limit timer = (world.turn limit timer).onto base := by
  rw [turn, startCallback_onto, enact_onto]
  rfl

theorem turns_onto : (world.onto base).turns limit timers = (world.turns limit timers).onto base := by
  induction timers generalizing world with
  | nil => rfl
  | cons timer timers ih =>
      rw [turns, List.foldl_cons, turn_onto]
      exact ih

theorem Fires.of_onto (h : Fires limit deadline (world.onto base) timers) :
    Fires limit deadline world timers := by
  generalize hw : world.onto base = world' at h
  induction h generalizing world with
  | nil => exact .nil _
  | cons hnext hreturns _ ih =>
      subst hw
      exact .cons hnext hreturns (ih turn_onto.symm)

/-! ### What turns keep -/

/-- Of the clock, an action of a callback can only schedule and cancel timers. -/
theorem act_provider (limit : Nat) (caller : Caller TimerId) (world : ClockWorld)
    (hdrain : action.isDrain = false) :
    (act limit caller world action).provider = world.provider ∨
    (∃ route kind delay name handler, action = .schedule route kind delay name handler ∧
      (act limit caller world action).provider = (world.provider.schedule kind handler delay).2) ∨
    ∃ id, (act limit caller world action).provider = (world.provider.cancel id).2 := by
  simp only [act, Machine.step]
  cases hplan : Machine.plan (VirtualClock.provider limit) world caller action with
  | throw => exact Or.inl rfl
  | finish result world' => exact Or.inl (Machine.plan_finish hplan).1
  | ask request watched =>
      rcases Machine.plan_ask hplan with ⟨route, kind, delay, name, handler, rfl, rfl, rfl⟩ |
        ⟨_, _, _, id, rfl, -, rfl, rfl⟩ | ⟨_, rfl, -, -⟩
      · refine Or.inr (Or.inl ⟨route, kind, delay, name, handler, rfl, ?_⟩)
        exact Machine.settle_provider ..
      · refine Or.inr (Or.inr ⟨id, ?_⟩)
        exact Machine.settle_provider ..
      · cases hdrain

theorem act_now (hdrain : action.isDrain = false) :
    (act limit caller world action).provider.now = world.provider.now := by
  rcases act_provider limit caller world hdrain with h | ⟨_, _, _, _, _, -, h⟩ | ⟨_, h⟩
  · rw [h]
  · rw [h, VirtualClock.schedule_now]
  · rw [h, VirtualClock.cancel_now]

theorem enact_now (hdrain : ∀ a ∈ actions, a.isDrain = false) :
    (enact limit caller world actions).provider.now = world.provider.now := by
  induction actions generalizing world with
  | nil => rfl
  | cons action actions ih =>
      rw [enact, List.foldl_cons]
      refine (ih fun a ha => hdrain a (List.mem_cons_of_mem _ ha)).trans ?_
      exact act_now (hdrain action List.mem_cons_self)

/-- Only the start of the callback moves the clock. -/
theorem turn_now (hdrain : ∀ a ∈ timer.script, a.isDrain = false) :
    (world.turn limit timer).provider.now = max world.provider.now timer.dueAt := by
  rw [turn, endCallback, VirtualClock.finish_now, enact_now hdrain]
  rfl

/-- Every timer that waits is so. -/
def AllWait (Q : QueuedTimer (Handler TimerId) → Prop) (world : ClockWorld) : Prop :=
  ∀ t ∈ world.provider.queue, Q t

section AllWait

variable {p : Action TimerId → Bool} {Q : QueuedTimer (Handler TimerId) → Prop}
  (hnew : ∀ (clock : VirtualClock (Handler TimerId)) (kind : TimerKind) (delay : Duration)
    (handler : Handler TimerId), handler.obeys p = true → Q (clock.scheduledTimer kind handler delay))

include hnew

theorem AllWait.act (h : AllWait Q world) (hdrain : action.isDrain = false)
    (haction : action.obeys p = true) : AllWait Q (act limit caller world action) := by
  intro t ht
  rcases act_provider limit caller world hdrain with
    hsame | ⟨_, kind, delay, _, handler, rfl, hscheduled⟩ | ⟨id, hcancelled⟩
  · rw [hsame] at ht
    exact h t ht
  · rw [hscheduled, VirtualClock.schedule_queue] at ht
    rcases List.mem_cons.mp ht with rfl | ht
    · exact hnew _ _ _ _ haction
    · exact h t ht
  · rw [hcancelled, VirtualClock.mem_cancel_queue] at ht
    exact h t ht.1

theorem AllWait.enact (h : AllWait Q world) (hdrain : ∀ a ∈ actions, a.isDrain = false)
    (hactions : ∀ a ∈ actions, a.obeys p = true) :
    AllWait Q (enact limit caller world actions) := by
  induction actions generalizing world with
  | nil => exact h
  | cons action actions ih =>
      have hact : AllWait Q (World.act limit caller world action) :=
        h.act hnew (hdrain action List.mem_cons_self) (hactions action List.mem_cons_self)
      exact ih hact (fun a ha => hdrain a (List.mem_cons_of_mem _ ha))
        fun a ha => hactions a (List.mem_cons_of_mem _ ha)

/-- What is so of every timer that waits stays so over a turn, if it is so of the
timers that the callback schedules and is not lost when a timer is armed again. -/
theorem AllWait.turn
    (hagain : ∀ (t : QueuedTimer (Handler TimerId)) (clock : VirtualClock (Handler TimerId))
      (period : Nat), Q t → Q (clock.rearmed t period))
    (h : AllWait Q world) (hnext : world.provider.next? deadline = some timer)
    (hdrain : ∀ a ∈ timer.script, a.isDrain = false) (hscript : ∀ a ∈ timer.script, a.obeys p = true) :
    AllWait Q (world.turn limit timer) := by
  have hstart : AllWait Q (world.startCallback timer) :=
    fun t ht => h t ((VirtualClock.mem_start_queue timer world.provider).mp ht).1
  have hend : AllWait Q
      (World.enact limit (.callback (some timer.id)) (world.startCallback timer) timer.script) :=
    hstart.enact hnew hdrain hscript
  intro t ht
  rcases VirtualClock.finish_cases timer (World.enact limit (.callback (some timer.id))
    (world.startCallback timer) timer.script).provider with ⟨hrest, -⟩ | ⟨period, -, -, hqueue, -⟩
  · rw [World.turn, endCallback, hrest] at ht
    exact hend t ht
  · rw [World.turn, endCallback, hqueue] at ht
    rcases List.mem_cons.mp ht with rfl | ht
    · exact hagain _ _ _ (h timer (VirtualClock.next?_spec hnext).1)
    · exact hend t ht

end AllWait

/-- The callbacks that wait do only what `p` allows, and so do those that they
bring along. -/
def Obeys (p : Action TimerId → Bool) (world : ClockWorld) : Prop :=
  ∀ t ∈ world.provider.queue, t.callback.obeys p = true

section Obeys

variable {p : Action TimerId → Bool}

theorem Obeys.script (h : Obeys p world) (hnext : world.provider.next? deadline = some timer) :
    ∀ a ∈ timer.script, p a = true ∧ a.obeys p = true :=
  Handler.obeys_actions (h timer (VirtualClock.next?_spec hnext).1) timer.runs

/-- Where `p` allows no drains, no callback drains. -/
theorem Obeys.undrained (hp : ∀ drain, p (.drain drain) = false) (h : Obeys p world)
    (hnext : world.provider.next? deadline = some timer) :
    ∀ a ∈ timer.script, a.isDrain = false := by
  intro a ha
  cases a with
  | drain drain =>
      have hallowed := (h.script hnext _ ha).1
      rw [hp] at hallowed
      cases hallowed
  | _ => rfl

theorem Obeys.turn (hp : ∀ drain, p (.drain drain) = false) (h : Obeys p world)
    (hnext : world.provider.next? deadline = some timer) : Obeys p (world.turn limit timer) :=
  AllWait.turn (fun _ _ _ _ hhandler => hhandler) (fun _ _ _ ht => ht) h hnext
    (h.undrained hp hnext) fun a ha => (h.script hnext a ha).2

end Obeys

/-- No callback drains where this holds, and every turn keeps it. -/
structure Undraining (limit : Nat) (I : ClockWorld → Prop) : Prop where
  undrained : ∀ {world : ClockWorld} {deadline : Option Nat} {timer : QueuedTimer (Handler TimerId)},
    I world → world.provider.next? deadline = some timer → ∀ a ∈ timer.script, a.isDrain = false
  turn : ∀ {world : ClockWorld} {deadline : Option Nat} {timer : QueuedTimer (Handler TimerId)},
    I world → world.provider.next? deadline = some timer → I (world.turn limit timer)

theorem undraining_obeys {p : Action TimerId → Bool} (hp : ∀ drain, p (.drain drain) = false) :
    Undraining limit (Obeys p) where
  undrained h hnext := h.undrained hp hnext
  turn h hnext := h.turn hp hnext

/-- What every turn keeps holds after all of them. -/
theorem Fires.invariant {I : ClockWorld → Prop}
    (hturn : ∀ world timer, I world → world.provider.next? deadline = some timer →
      I (world.turn limit timer))
    (h : Fires limit deadline world timers) (hI : I world) : I (world.turns limit timers) := by
  induction h with
  | nil => exact hI
  | cons hnext _ _ ih => exact ih (hturn _ _ hI hnext)

section Fires

variable {p : Action TimerId → Bool}

/-- The clock does not run back. -/
theorem Fires.le_now {I : ClockWorld → Prop} (hI : Undraining limit I) (h : I world)
    (hfires : Fires limit deadline world timers) :
    world.provider.now ≤ (world.turns limit timers).provider.now := by
  have hinvariant : ∀ (w : ClockWorld) (t : QueuedTimer (Handler TimerId)),
      I w ∧ world.provider.now ≤ w.provider.now → w.provider.next? deadline = some t →
      I (w.turn limit t) ∧ world.provider.now ≤ (w.turn limit t).provider.now := by
    rintro w t ⟨hw, hle⟩ hnext
    refine ⟨hI.turn hw hnext, ?_⟩
    rw [turn_now (hI.undrained hw hnext)]
    exact Nat.le_trans hle (Nat.le_max_left _ _)
  exact (hfires.invariant hinvariant ⟨h, Nat.le_refl _⟩).2

theorem Obeys.turns (hp : ∀ drain, p (.drain drain) = false) (h : Obeys p world)
    (hfires : Fires limit deadline world timers) : Obeys p (world.turns limit timers) :=
  hfires.invariant (fun _ _ hobeys hnext => hobeys.turn hp hnext) h

/-- A drain with a deadline does not move the clock past it. -/
theorem Fires.now_le {latest : Nat} (hp : ∀ drain, p (.drain drain) = false) (h : Obeys p world)
    (hfires : Fires limit (some latest) world timers) (hnow : world.provider.now ≤ latest) :
    (world.turns limit timers).provider.now ≤ latest := by
  have hinvariant : ∀ (w : ClockWorld) (t : QueuedTimer (Handler TimerId)),
      Obeys p w ∧ w.provider.now ≤ latest → w.provider.next? (some latest) = some t →
      Obeys p (w.turn limit t) ∧ (w.turn limit t).provider.now ≤ latest := by
    rintro w t ⟨hobeys, hle⟩ hnext
    refine ⟨hobeys.turn hp hnext, ?_⟩
    rw [turn_now (hobeys.undrained hp hnext)]
    exact Nat.max_le.mpr ⟨hle, VirtualClock.next?_dueAt_le hnext⟩
  exact (hfires.invariant hinvariant ⟨h, hnow⟩).2

/-- Why a drain that may start `left` callbacks stops in this world, after
`ran` of them. -/
inductive Stops (deadline : Option Nat) (left ran : Nat) (world : ClockWorld) : Prop
  /-- Nothing is due any more. -/
  | quiet : world.provider.next? deadline = none → ran ≤ left → Stops deadline left ran world
  | limited {timer : QueuedTimer (Handler TimerId)} :
      world.provider.next? deadline = some timer → ran = left → Stops deadline left ran world
  | throws {timer : QueuedTimer (Handler TimerId)} :
      world.provider.next? deadline = some timer → ¬ timer.Returns → ran < left →
      Stops deadline left ran world

/-- A drain with a limit stops. -/
theorem exists_fires (limit : Nat) (deadline : Option Nat) (left : Nat) (world : ClockWorld) :
    ∃ timers, Fires limit deadline world timers ∧
      Stops deadline left timers.length (world.turns limit timers) := by
  induction left generalizing world with
  | zero =>
      refine ⟨[], .nil world, ?_⟩
      cases hnext : world.provider.next? deadline with
      | none => exact .quiet hnext (Nat.le_refl _)
      | some timer => exact .limited hnext rfl
  | succ left ih =>
      cases hnext : world.provider.next? deadline with
      | none => exact ⟨[], .nil world, .quiet hnext (Nat.zero_le _)⟩
      | some timer =>
          by_cases hreturns : timer.Returns
          · obtain ⟨timers, hfires, hstops⟩ := ih (world.turn limit timer)
            refine ⟨timer :: timers, .cons hnext hreturns hfires, ?_⟩
            rw [List.length_cons]
            cases hstops with
            | quiet hnone hle => exact .quiet hnone (Nat.succ_le_succ hle)
            | limited hsome hran => exact .limited hsome (congrArg Nat.succ hran)
            | throws hsome hthrows hlt => exact .throws hsome hthrows (Nat.succ_lt_succ hlt)
          · exact ⟨[], .nil world, .throws hnext hreturns (Nat.succ_pos left)⟩

end Fires

/-! ### The limit does not matter -/

/-- The callbacks that were started, the latest first. -/
def starts (world : ClockWorld) : List (Firing TimerId (Handler TimerId) × Nat) :=
  world.log.filterMap Entry.start?

/-- Two worlds that differ at most in what their records say of actions. -/
structure Matches (world world' : ClockWorld) : Prop where
  forget : world'.forget = world.forget
  starts : world'.starts = world.starts

theorem Matches.refl (world : ClockWorld) : Matches world world := ⟨rfl, rfl⟩

theorem Matches.provider (h : Matches world world') : world'.provider = world.provider :=
  congrArg (·.provider) h.forget

/-- Between two drains of different limits an action cannot tell, but for what
it may note down. -/
theorem forget_act (hdrain : action.isDrain = false) :
    (act limit' caller world action).forget = (act limit caller world action).forget := by
  cases action with
  | drain _ => cases hdrain
  | installMonitor settings => cases settings <;> rfl
  | clear route kind target =>
      simp only [act, Machine.step, Machine.plan]
      cases world.resolve caller target <;> rfl
  | contains target =>
      simp only [act, Machine.step, Machine.plan]
      cases world.resolve caller target <;> rfl
  | _ => rfl

theorem starts_act (hdrain : action.isDrain = false) :
    (act limit caller world action).starts = world.starts := by
  simp only [act, Machine.step]
  cases hplan : Machine.plan (VirtualClock.provider limit) world caller action with
  | throw => rfl
  | finish result world' =>
      show (world'.record _).log.filterMap Entry.start? = world.log.filterMap Entry.start?
      rw [record, List.filterMap_cons_none rfl, (Machine.plan_finish hplan).2]
  | ask request watched =>
      refine (Machine.starts_settle ..).trans ?_
      rcases Machine.plan_ask hplan with ⟨_, _, _, _, _, rfl, rfl, rfl⟩ |
        ⟨_, _, _, _, rfl, -, rfl, rfl⟩ | ⟨_, rfl, -, -⟩
      · rfl
      · rfl
      · cases hdrain

theorem Matches.act (h : Matches world world') (hdrain : action.isDrain = false) :
    Matches (act limit caller world action) (act limit' caller world' action) where
  forget := by
    have hworld : (World.act limit' caller world' action).forget =
        (World.act limit' caller world action).forget := by
      rw [← world'.forget_onto, ← world.forget_onto, act_onto, act_onto, h.forget]
      rfl
    rw [hworld, forget_act hdrain]
  starts := by rw [starts_act hdrain, starts_act hdrain, h.starts]

theorem Matches.enact (h : Matches world world') (hdrain : ∀ a ∈ actions, a.isDrain = false) :
    Matches (enact limit caller world actions) (enact limit' caller world' actions) := by
  induction actions generalizing world world' with
  | nil => exact h
  | cons action actions ih =>
      exact ih (h.act (hdrain action List.mem_cons_self))
        fun a ha => hdrain a (List.mem_cons_of_mem _ ha)

theorem Matches.turn (h : Matches world world') (hdrain : ∀ a ∈ timer.script, a.isDrain = false) :
    Matches (world.turn limit timer) (world'.turn limit' timer) := by
  have hstart : Matches (world.startCallback timer) (world'.startCallback timer) := by
    refine ⟨?_, ?_⟩
    · have hforget : ∀ w : ClockWorld, (w.startCallback timer).forget =
          { w.forget with provider := w.forget.provider.start timer } := fun _ => rfl
      rw [hforget, hforget, h.forget]
    · have hstarts : ∀ w : ClockWorld, (w.startCallback timer).starts =
          (timer.firing, (w.provider.start timer).now) :: w.starts :=
        fun w => List.filterMap_cons_some rfl
      rw [hstarts, hstarts, h.starts, h.provider]
  have hend : Matches
      (World.enact limit (.callback (some timer.id)) (world.startCallback timer) timer.script)
      (World.enact limit' (.callback (some timer.id)) (world'.startCallback timer) timer.script) :=
    hstart.enact hdrain
  refine ⟨?_, hend.starts⟩
  have hforget : ∀ w : ClockWorld, (w.endCallback timer).forget =
      { w.forget with provider := w.forget.provider.finish timer } := fun _ => rfl
  rw [World.turn, World.turn, hforget, hforget, hend.forget]

/-- A drain starts the same timers whatever its limit. -/
theorem Fires.matches {p : Action TimerId → Bool} (hp : ∀ drain, p (.drain drain) = false)
    (hobeys : Obeys p world) (h : Fires limit deadline world timers) (hworlds : Matches world world') :
    Fires limit' deadline world' timers ∧
      Matches (world.turns limit timers) (world'.turns limit' timers) := by
  induction h generalizing world' with
  | nil => exact ⟨.nil _, hworlds⟩
  | @cons world timer timers hnext hreturns _ ih =>
      have hturn : Matches (world.turn limit timer) (world'.turn limit' timer) :=
        hworlds.turn (hobeys.undrained hp hnext)
      obtain ⟨hfires, hafter⟩ := ih (hobeys.turn hp hnext) hturn
      refine ⟨.cons ?_ hreturns hfires, hafter⟩
      rw [hworlds.provider]
      exact hnext

end World

end PageTimers
