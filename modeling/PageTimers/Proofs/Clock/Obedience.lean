/-
# Programs that keep to some of the actions

Much of what a drain guarantees rests on what the callbacks leave alone.  A
program may schedule callbacks that schedule callbacks, so "no callback ever
does this" is a condition on the whole tree of a program:

    a.obeys p      the callbacks that the action `a` brings along do only
                   what `p` allows, and so do those that they bring along

`Obedient p` carries such a condition through a run: it holds of the
callbacks that wait, of those that run, and of what the machine is about to
do.  Where `p` allows no drains, only the harness drains.  Then no callback
runs inside another (`Obedient.calm`), and the history of the run is one of
beats that do not nest (`beats_of_obeys`).
-/
import PageTimers.Proofs.Clock.Identity

namespace PageTimers

/-! ## Conditions on all callbacks of a program -/

section Obeys

variable {ι : Type}

def Action.isDrain : Action ι → Bool
  | .drain _ => true
  | _ => false

mutual

/-- The callbacks that an action brings along do only what `p` allows. -/
def Action.obeys (p : Action ι → Bool) : Action ι → Bool
  | .schedule _ _ _ _ handler => handler.obeys p
  | _ => true

def Handler.obeys (p : Action ι → Bool) : Handler ι → Bool
  | .mk _ ticks body => ticksObey p ticks && actionsObey p body

def actionsObey (p : Action ι → Bool) : List (Action ι) → Bool
  | [] => true
  | action :: rest => p action && action.obeys p && actionsObey p rest

def ticksObey (p : Action ι → Bool) : List (List (Action ι)) → Bool
  | [] => true
  | actions :: rest => actionsObey p actions && ticksObey p rest

end

variable {p : Action ι → Bool}

theorem actionsObey_iff {actions : List (Action ι)} :
    actionsObey p actions = true ↔ ∀ a ∈ actions, p a = true ∧ a.obeys p = true := by
  induction actions with
  | nil => simp [actionsObey]
  | cons action rest ih => simp [actionsObey, ih]

theorem ticksObey_iff {ticks : List (List (Action ι))} :
    ticksObey p ticks = true ↔ ∀ actions ∈ ticks, actionsObey p actions = true := by
  induction ticks with
  | nil => simp [ticksObey]
  | cons actions rest ih => simp [ticksObey, ih]

/-- What an obedient callback does on any of its firings. -/
theorem Handler.obeys_actions {handler : Handler ι} (h : handler.obeys p = true) (count : Nat) :
    ∀ a ∈ handler.actions count, p a = true ∧ a.obeys p = true := by
  obtain ⟨quiet, ticks, body⟩ := handler
  rw [Handler.obeys, Bool.and_eq_true, ticksObey_iff] at h
  obtain ⟨hticks, hbody⟩ := h
  rw [← actionsObey_iff, Handler.actions]
  cases hcount : ticks[count]? with
  | none => exact hbody
  | some actions => exact hticks actions (List.mem_of_getElem? hcount)

end Obeys

/-- The callbacks that an action brings along do not drain. -/
def Action.calm {ι : Type} (a : Action ι) : Bool := a.obeys fun b => !b.isDrain

/-! ## The callbacks that the clock holds -/

namespace VirtualClock

variable {α : Type}

/-- A drain that goes on holds no timer that was not held before. -/
theorem held_proceed (goal : Goal) (left ran : Nat) (clock : VirtualClock α)
    (us : List (UnderWay α)) : held ((proceed goal left ran clock).land us) ⊆ held ⟨clock, us⟩ := by
  intro t ht
  unfold proceed at ht
  cases hnext : clock.next? goal.deadline with
  | none =>
      rw [hnext] at ht
      simpa [Move.land, Outcome.suspended?, held] using ht
  | some timer =>
      rw [hnext] at ht
      cases left with
      | zero => exact ht
      | succ left =>
          rw [mem_held]
          rcases mem_held.mp ht with hqueue | ⟨u, hu, rfl⟩
          · exact Or.inl ((mem_start_queue timer clock).mp hqueue).1
          · rcases List.mem_cons.mp hu with rfl | hu
            · exact Or.inl (next?_spec hnext).1
            · exact Or.inr ⟨u, hu, rfl⟩

/-- What holds of the timers that the clock holds goes on to hold, if it holds
of the timer that is scheduled and is not lost when a timer is armed again. -/
theorem timers_serve {C : QueuedTimer α → Prop} (limit : Nat) {c : Contact TimerId α} {p : Place α}
    (hp : ∀ t ∈ held p, C t)
    (hrearm : ∀ t period (clock : VirtualClock α), t.period = some period → C t →
      C (clock.rearmed t period))
    (hc : ∀ kind callback delay, c = .ask (.schedule kind callback delay) →
      C (p.state.scheduledTimer kind callback delay)) :
    ∀ t ∈ held ((provider limit).serve c p), C t := by
  obtain ⟨clock, us⟩ := p
  cases c with
  | ask request =>
      cases request with
      | schedule kind callback delay =>
          intro t ht
          rcases List.mem_cons.mp ht with rfl | ht
          · exact hc kind callback delay rfl
          · exact hp t ht
      | clear kind id =>
          intro t ht
          refine hp t (mem_held.mpr ((mem_held.mp ht).imp_left fun hqueue => ?_))
          exact ((mem_cancel_queue id clock).mp hqueue).1
      | drain drain =>
          intro t ht
          simp only [Provider.serve, provider, ask] at ht
          cases hgoal : Goal.of drain clock.now with
          | error e =>
              rw [hgoal] at ht
              exact hp t ht
          | ok goal =>
              rw [hgoal] at ht
              exact hp t (held_proceed goal _ 0 clock us ht)
  | ended ended =>
      cases us with
      | nil => cases ended <;> exact hp
      | cons u us =>
          have hover : ∀ t ∈ clock.queue ++ us.map (·.timer), C t :=
            fun t ht => hp t (over_sublist.subset ht)
          cases ended with
          | thrown => exact hover
          | returned =>
              intro t ht
              have ht : t ∈ held ⟨clock.finish u.timer, us⟩ :=
                held_proceed u.goal u.left u.ran (clock.finish u.timer) us ht
              rcases finish_cases u.timer clock with ⟨hrest, -⟩ | ⟨period, hperiod, -, hqueue, -⟩
              · rw [hrest] at ht
                exact hover t ht
              · rw [held, hqueue] at ht
                rcases List.mem_cons.mp ht with rfl | ht
                · exact hrearm u.timer period clock hperiod
                    (hp u.timer (mem_held.mpr (Or.inr ⟨u, List.mem_cons_self, rfl⟩)))
                · exact hover t ht

/-- What holds of the callbacks that the clock holds, and of those that are
scheduled, goes on to hold. -/
theorem callbacks_serve {C : α → Prop} (limit : Nat) {c : Contact TimerId α} {p : Place α}
    (hp : ∀ t ∈ held p, C t.callback)
    (hc : ∀ kind callback delay, c = .ask (.schedule kind callback delay) → C callback) :
    ∀ t ∈ held ((provider limit).serve c p), C t.callback :=
  timers_serve limit hp (fun _ _ _ _ ht => ht) hc

end VirtualClock

/-! ## Obedient runs -/

namespace Machine

variable {p : Action TimerId → Bool}

/-- The callbacks do only what `p` allows, one at a time; the harness may
also drain. -/
structure Obedient (p : Action TimerId → Bool) (m : ClockMachine) : Prop where
  timers : ∀ t ∈ VirtualClock.held m.site, t.callback.obeys p = true
  shallow : m.stack.length ≤ 1
  frames : ∀ frame ∈ m.stack, ∀ a ∈ frame.1.rest,
    (p a = true ∨ a.isDrain = true) ∧ a.obeys p = true
  control : ∀ caller actions, m.control = .run caller actions → ∀ a ∈ actions,
    (p a = true ∨ a.isDrain = true ∧ m.stack = []) ∧ a.obeys p = true

variable {limit : Nat} {m : ClockMachine}

/-- What is done at once changes no timer, so obedience is a matter of what
is done next. -/
theorem Obedient.of_control (h : m.Obedient p) {world : World _ TimerId} {control : Control TimerId}
    (hworld : world.provider = m.world.provider)
    (hcontrol : ∀ caller actions, control = .run caller actions → ∀ a ∈ actions,
      (p a = true ∨ a.isDrain = true ∧ m.stack = []) ∧ a.obeys p = true) :
    Obedient p (⟨world, control, m.stack⟩ : ClockMachine) where
  timers := by
    show ∀ t ∈ VirtualClock.held ⟨world.provider, m.stack.map (·.2)⟩, t.callback.obeys p = true
    rw [hworld]
    exact h.timers
  shallow := h.shallow
  frames := h.frames
  control := hcontrol

/-- Settling a move is obedient where the action waits at the bottom of the
stack, or the move starts no callback. -/
theorem Obedient.settle {world : World (VirtualClock (Handler TimerId)) TimerId}
    {w : Waiting (VirtualClock.UnderWay (Handler TimerId)) TimerId}
    {stack : List (Waiting (VirtualClock.UnderWay (Handler TimerId)) TimerId ×
      VirtualClock.UnderWay (Handler TimerId))}
    {move : Move (VirtualClock (Handler TimerId)) (VirtualClock.UnderWay (Handler TimerId)) TimerId
      (Handler TimerId)}
    (htimers : ∀ t ∈ VirtualClock.held (move.land (stack.map (·.2))), t.callback.obeys p = true)
    (hshallow : stack.length ≤ 1)
    (hframes : ∀ frame ∈ stack, ∀ a ∈ frame.1.rest,
      (p a = true ∨ a.isDrain = true) ∧ a.obeys p = true)
    (hrest : ∀ a ∈ w.rest, (p a = true ∨ a.isDrain = true ∧ stack = []) ∧ a.obeys p = true)
    (hinvoke : ∀ firing u, move.outcome = .invoke firing u →
      stack = [] ∧ firing = u.timer.firing) :
    (Machine.settle (VirtualClock.provider limit) world w stack move).Obedient p := by
  have hsite := site_settle (P := VirtualClock.provider limit) world w stack move
  have htimers : ∀ t ∈ VirtualClock.held
      (Machine.settle (VirtualClock.provider limit) world w stack move).site,
      t.callback.obeys p = true := by
    rw [hsite]
    exact htimers
  unfold Machine.settle at htimers ⊢
  cases hmove : move.outcome with
  | answer result =>
      simp only [hmove] at htimers ⊢
      refine ⟨htimers, hshallow, hframes, ?_⟩
      rintro caller actions hrun a ha
      cases hrun
      exact hrest a ha
  | rethrow =>
      simp only [hmove] at htimers ⊢
      exact ⟨htimers, hshallow, hframes, fun _ _ hrun => by cases hrun⟩
  | invoke firing u =>
      simp only [hmove] at htimers ⊢
      obtain ⟨rfl, rfl⟩ := hinvoke firing u hmove
      refine ⟨htimers, Nat.le_refl 1, ?_, ?_⟩
      · intro frame hframe a ha
        rw [List.mem_singleton] at hframe
        subst hframe
        exact (hrest a ha).imp_left fun h => h.imp_right fun hdrain => hdrain.1
      · rintro caller actions hrun a ha
        cases hrun
        have hu : u.timer.callback.obeys p = true :=
          htimers u.timer (VirtualClock.mem_held.mpr (Or.inr ⟨u, List.mem_cons_self, rfl⟩))
        exact (Handler.obeys_actions hu u.timer.runs a ha).imp_left Or.inl

section Step

variable {world : World (VirtualClock (Handler TimerId)) TimerId}
  {stack : List (Waiting (VirtualClock.UnderWay (Handler TimerId)) TimerId ×
    VirtualClock.UnderWay (Handler TimerId))}

/-- A callback that has come to its end leaves its drain at the bottom of the
stack. -/
theorem Obedient.ended {control : Control TimerId}
    {frame : Waiting (VirtualClock.UnderWay (Handler TimerId)) TimerId ×
      VirtualClock.UnderWay (Handler TimerId)}
    (h : Obedient p ⟨world, control, frame :: stack⟩) (ended : Ended) :
    (Machine.settle (VirtualClock.provider limit) world frame.1 stack
      ((VirtualClock.provider limit).resume frame.2 ended world.provider)).Obedient p := by
  obtain rfl : stack = [] :=
    List.length_eq_zero_iff.mp (Nat.le_zero.mp (Nat.le_of_succ_le_succ h.shallow))
  refine .settle ?_ (Nat.zero_le 1) (fun _ hframe => absurd hframe List.not_mem_nil) ?_ ?_
  · have hserve := VirtualClock.callbacks_serve (C := fun f : Handler TimerId => f.obeys p = true)
      limit (c := .ended ended) h.timers (fun _ _ _ he => by cases he)
    cases ended <;> exact hserve
  · intro a ha
    exact (h.frames frame List.mem_cons_self a ha).imp_left fun ho => ho.imp_right fun hd => ⟨hd, rfl⟩
  · intro firing u hinvoke
    cases ended with
    | thrown => cases hinvoke
    | returned => exact ⟨rfl, ClockSession.firing_of_proceed hinvoke⟩

/-- Only a drain starts a callback, and only the harness drains. -/
theorem Obedient.asked {caller : Caller TimerId} {action : Action TimerId}
    {rest : List (Action TimerId)} {request : Request TimerId (Handler TimerId)} {watched : Bool}
    (hp : ∀ drain, p (.drain drain) = false)
    (h : Obedient p ⟨world, .run caller (action :: rest), stack⟩)
    (hplan : plan (VirtualClock.provider limit) world caller action = .ask request watched) :
    (Machine.settle (VirtualClock.provider limit) world ⟨caller, action, request, watched, rest⟩
      stack ((VirtualClock.provider limit).ask request world.provider)).Obedient p := by
  have haction := h.control caller (action :: rest) rfl action List.mem_cons_self
  refine .settle ?_ h.shallow h.frames
    (fun a ha => h.control caller (action :: rest) rfl a (List.mem_cons_of_mem _ ha)) ?_
  · refine VirtualClock.callbacks_serve (C := fun f : Handler TimerId => f.obeys p = true) limit
      (c := .ask request) h.timers ?_
    rintro kind callback delay he
    rcases plan_ask hplan with ⟨route, kind', delay', name, handler, rfl, rfl, -⟩ |
      ⟨_, _, _, _, _, _, rfl, _⟩ | ⟨_, _, rfl, _⟩
    · cases he
      exact haction.2
    · cases he
    · cases he
  · intro firing u hinvoke
    rcases plan_ask hplan with ⟨_, _, _, _, _, _, rfl, _⟩ | ⟨_, _, _, _, _, _, rfl, _⟩ |
      ⟨drain, rfl, rfl, -⟩
    · cases hinvoke
    · cases hinvoke
    · have hstack : stack = [] := by
        rcases haction.1 with hpa | ⟨-, hstack⟩
        · rw [hp drain] at hpa
          cases hpa
        · exact hstack
      refine ⟨hstack, ?_⟩
      simp only [VirtualClock.provider, VirtualClock.ask] at hinvoke
      split at hinvoke
      · cases hinvoke
      · exact ClockSession.firing_of_proceed hinvoke

end Step

variable {c : Option (Contact TimerId (Handler TimerId))} {m' : ClockMachine}

/-- Drains that only the harness asks for do not nest. -/
theorem Obedient.course (hp : ∀ drain, p (.drain drain) = false) (h : m.Obedient p)
    (hcourse : Course (VirtualClock.provider limit) m c m') : m'.Obedient p := by
  cases hcourse with
  | stays => exact h
  | halts | throws => exact h.of_control rfl (fun _ _ he => by cases he)
  | asked rest stack hplan => exact h.asked hp hplan
  | ended => exact h.ended _
  | @did world world' caller action _ rest stack hplan =>
      refine h.of_control (plan_finish hplan).1 ?_
      rintro _ _ he a ha
      cases he
      exact h.control caller (action :: rest) rfl a (List.mem_cons_of_mem _ ha)

theorem Obedient.load (h : m.Obedient p) {action : Action TimerId}
    (haction : (p action = true ∨ action.isDrain = true) ∧ action.obeys p = true) :
    Obedient p (Machine.load m.world [action]) where
  timers t ht := by
    rcases VirtualClock.mem_held.mp ht with hqueue | ⟨u, hu, -⟩
    · exact h.timers t (VirtualClock.mem_held.mpr (Or.inl hqueue))
    · exact absurd hu List.not_mem_nil
  shallow := Nat.zero_le 1
  frames _ hframe := absurd hframe List.not_mem_nil
  control _ _ hcontrol a ha := by
    cases hcontrol
    rw [List.mem_singleton] at ha
    subst ha
    exact haction.imp_left fun ho => ho.imp_right fun hdrain => ⟨hdrain, rfl⟩

/-- Nothing that reaches the clock nests drains. -/
theorem Obedient.calm (hp : ∀ drain, p (.drain drain) = false) (h : m.Obedient p)
    {contact : Contact TimerId (Handler TimerId)}
    (hcourse : Course (VirtualClock.provider limit) m (some contact) m') :
    VirtualClock.Calm contact m.site := by
  refine ⟨by simpa [Machine.site] using h.shallow, ?_⟩
  rintro drain rfl
  cases hcourse with
  | @asked world caller action _ _ rest stack hplan =>
      have haction := (h.control caller (action :: rest) rfl action List.mem_cons_self).1
      rcases plan_ask hplan with ⟨_, _, _, _, _, _, he, _⟩ | ⟨_, _, _, _, _, _, he, _⟩ |
        ⟨_, rfl, _, _⟩
      · cases he
      · cases he
      · rcases haction with hpa | ⟨-, hstack⟩
        · rw [hp] at hpa
          cases hpa
        · have hstack : stack = [] := hstack
          rw [Machine.site, hstack]
          rfl

end Machine

namespace ClockSession

variable {p : Action TimerId → Bool} (limit : Nat) (globals : Globals)
  {actions : List (Action TimerId)}

theorem obedient_after (hp : ∀ drain, p (.drain drain) = false)
    (hactions : ∀ a ∈ actions, (p a = true ∨ a.isDrain = true) ∧ a.obeys p = true) (n : Nat) :
    ((fresh globals actions).after limit n).machine.Obedient p := by
  refine (Session.after_invariant (I := Machine.Obedient p) ?_
    (fun m hm => hm.course hp m.course_step) ?_ n).1
  · refine ⟨fun _ h => absurd h List.not_mem_nil, Nat.zero_le 1,
      fun _ h => absurd h List.not_mem_nil, ?_⟩
    rintro _ _ he a ha
    cases he
    exact absurd ha List.not_mem_nil
  · exact fun m hm _ action haction => hm.load (hactions action haction)

/-- Where callbacks do not drain, what happens at the clock is a matter of
beats that do not nest. -/
theorem beats_of_obeys (hp : ∀ drain, p (.drain drain) = false)
    (hactions : ∀ a ∈ actions, (p a = true ∨ a.isDrain = true) ∧ a.obeys p = true) (n : Nat) :
    VirtualClock.Beats False ⟨.fresh, []⟩ ((fresh globals actions).history limit n)
      (Session.site ((fresh globals actions).after limit n)) :=
  beats_after limit globals actions n (Or.inl fun k _ _ hc =>
    (obedient_after limit globals hp hactions k).calm hp (Machine.course_of_contact hc))

/-- And so is what happens from any moment on. -/
theorem beats_onwards (hp : ∀ drain, p (.drain drain) = false)
    (hactions : ∀ a ∈ actions, (p a = true ∨ a.isDrain = true) ∧ a.obeys p = true) (n k : Nat) :
    VirtualClock.Beats False (Session.site ((fresh globals actions).after limit n))
      (((fresh globals actions).after limit n).history limit k)
      (Session.site (((fresh globals actions).after limit n).after limit k)) := by
  refine beats_from limit (Session.settled_after (Session.settled_start _ _) n) ?_ k
    (Or.inl fun j _ c hc => ?_)
  · exact (beats_of_obeys limit globals hp hactions n).invariant (fun _ _ _ hp b => hp.beat b)
      fun _ hu => absurd hu List.not_mem_nil
  · have hobedient := obedient_after limit globals hp hactions (n + j)
    rw [after, Session.after_add] at hobedient
    exact hobedient.calm hp (Machine.course_of_contact hc)

omit limit globals in
/-- Calm callbacks may do whatever is not a drain. -/
theorem obeys_of_calm (hcalm : ∀ a ∈ actions, a.calm = true) :
    ∀ a ∈ actions, ((!a.isDrain) = true ∨ a.isDrain = true) ∧ a.obeys (fun b => !b.isDrain) = true := by
  intro a ha
  refine ⟨?_, hcalm a ha⟩
  cases a.isDrain with
  | false => exact Or.inl rfl
  | true => exact Or.inr rfl

theorem beats_of_calm (hcalm : ∀ a ∈ actions, a.calm = true) (n : Nat) :
    VirtualClock.Beats False ⟨.fresh, []⟩ ((fresh globals actions).history limit n)
      (Session.site ((fresh globals actions).after limit n)) :=
  beats_of_obeys limit globals (fun _ => rfl) (obeys_of_calm hcalm) n

end ClockSession

end PageTimers
