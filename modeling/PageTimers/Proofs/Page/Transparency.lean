/-
# The interceptor is transparent

Scripts on a page call the provider through the interceptor, once it is
installed, and must not be able to tell.  Nor must the provider: it is asked
the same things in the same order, runs the same callbacks, and ends in the
same state as if it had been called directly.

The statement is about whole runs.  Two machines run side by side,

    a program                       on a page,
    the program, calls rerouted     on any other page,

and after each step they are `Alike`: equal but for the pages and for the
ways that calls take.  Nothing is asked of the provider: it may answer as it
likes and run callbacks when it likes, in the middle of a schedule call too.
So the relation has to hold in the middle of callbacks, with requests waiting
on the stack on one side for answers that the interceptor will see.

Where the calls of a callback go is settled when it runs.  The provider is
handed the callback as it is written, on both sides, and `Provider.rerouted`
changes the ways of those that it runs.
-/
import Mathlib.Data.List.Forall2
import PageTimers.Proofs.Program.Contact

namespace PageTimers

variable {σ κ ι : Type} {f : Route → Route}

/-! ## Sending calls another way -/

section Reroute

variable (f : Route → Route)

/-- The action, with its own call sent another way. -/
def Action.reroute : Action ι → Action ι
  | .schedule route kind delay name handler => .schedule (f route) kind delay name handler
  | .clear route kind target => .clear (f route) kind target
  | a => a

def Handler.reroute : Handler ι → Handler ι
  | .mk quiet ticks body =>
    .mk quiet (ticks.map (List.map (Action.reroute f))) (body.map (Action.reroute f))

def Firing.reroute (firing : Firing ι (Handler ι)) : Firing ι (Handler ι) :=
  { firing with callback := firing.callback.reroute f }

def Outcome.reroute : Outcome κ ι (Handler ι) → Outcome κ ι (Handler ι)
  | .answer result => .answer result
  | .invoke firing suspended => .invoke (firing.reroute f) suspended
  | .rethrow => .rethrow

def Move.reroute (move : Move σ κ ι (Handler ι)) : Move σ κ ι (Handler ι) :=
  { move with outcome := move.outcome.reroute f }

/-- The same provider, where the callbacks that it runs send their calls
another way. -/
def Provider.rerouted (P : Provider σ κ ι (Handler ι)) : Provider σ κ ι (Handler ι) :=
  { P with
    ask := fun request state => (P.ask request state).reroute f
    resume := fun suspended ended state => (P.resume suspended ended state).reroute f }

def Entry.reroute : Entry ι → Entry ι
  | .started firing now => .started (firing.reroute f) now
  | .did caller action result => .did caller (action.reroute f) result

def Control.reroute : Control ι → Control ι
  | .run caller actions => .run caller (actions.map (Action.reroute f))
  | .unwind => .unwind
  | .halt ended => .halt ended

end Reroute

theorem Handler.actions_reroute (handler : Handler ι) (count : Nat) :
    (handler.reroute f).actions count = (handler.actions count).map (Action.reroute f) := by
  obtain ⟨quiet, ticks, body⟩ := handler
  rw [Handler.reroute, Handler.actions, Handler.actions, List.getElem?_map]
  cases ticks[count]? <;> rfl

/-! ### No other way -/

@[simp] theorem Action.reroute_id (a : Action ι) : a.reroute id = a := by
  cases a <;> rfl

@[simp] theorem Handler.reroute_id (handler : Handler ι) : handler.reroute id = handler := by
  obtain ⟨quiet, ticks, body⟩ := handler
  have hid : Action.reroute (ι := ι) id = id := funext Action.reroute_id
  simp [Handler.reroute, hid]

@[simp] theorem Provider.rerouted_id (P : Provider σ κ ι (Handler ι)) : P.rerouted id = P := by
  have hmove : ∀ move : Move σ κ ι (Handler ι), move.reroute id = move := by
    rintro ⟨events, state, outcome⟩
    cases outcome <;> simp [Move.reroute, Outcome.reroute, Firing.reroute]
  simp [Provider.rerouted, hmove]

/-! ## Worlds that differ in their pages -/

/-- Whether it is what a timer call, or a look at the clock, came to. -/
def Result.isOfTimers : Result ι → Bool
  | .answered _ => true
  | .unresolved => true
  | .instant _ => true
  | .waiting _ => true
  | _ => false

/-- Whether it is about timers, and not about the page. -/
def Entry.isOfTimers : Entry ι → Bool
  | .started .. => true
  | .did _ _ result => result.isOfTimers

/-- Two worlds that differ in their pages, and in what was made of these. -/
structure World.Alike (f : Route → Route) (world world' : World σ ι) : Prop where
  provider : world'.provider = world.provider
  names : world'.names = world.names
  log : world'.log.filter Entry.isOfTimers =
    (world.log.filter Entry.isOfTimers).map (Entry.reroute f)

/-- Two results that agree, or are about the page. -/
def Result.Alike (result result' : Result ι) : Prop :=
  result = result' ∨ result.isOfTimers = false ∧ result'.isOfTimers = false

namespace World.Alike

variable {world world' : World σ ι}

theorem did (h : Alike f world world') (caller : Caller ι) (action : Action ι)
    {result result' : Result ι} (hresult : result.Alike result') :
    Alike f (world.record (.did caller action result))
      (world'.record (.did caller (action.reroute f) result')) where
  provider := h.provider
  names := h.names
  log := by
    rcases hresult with rfl | ⟨hr, hr'⟩
    · cases hr : result.isOfTimers with
      | false => simp [World.record, Entry.isOfTimers, hr, h.log]
      | true => simp [World.record, Entry.isOfTimers, hr, h.log, Entry.reroute]
    · simp [World.record, Entry.isOfTimers, hr, hr', h.log]

theorem started (h : Alike f world world') (firing : Firing ι (Handler ι)) (now : Nat) :
    Alike f (world.record (.started firing now))
      (world'.record (.started (firing.reroute f) now)) where
  provider := h.provider
  names := h.names
  log := by
    rw [World.record, World.record, List.filter_cons_of_pos rfl, List.filter_cons_of_pos rfl, h.log]
    rfl

theorem journaled (h : Alike f world world') (events events' : List (Event ι)) :
    Alike f (world.journaled events) (world'.journaled events') :=
  ⟨h.provider, h.names, h.log⟩

/-- The name of a timer does not depend on the way of the call. -/
theorem bindName (h : Alike f world world') (action : Action ι)
    (result : Except TimerError (Answer ι)) :
    Alike f (world.bindName action result) (world'.bindName (action.reroute f) result) := by
  cases action with
  | schedule route kind delay name handler =>
      cases name with
      | none => exact h
      | some name =>
          match result with
          | .ok (.scheduled id) =>
            exact ⟨h.provider, congrArg (·.insert name id) h.names, h.log⟩
          | .ok (.cleared _) | .ok (.ran _) | .error _ => exact h
  | _ => exact h

theorem resolve (h : Alike f world world') (caller : Caller ι) (target : Target ι) :
    world'.resolve caller target = world.resolve caller target := by
  cases target with
  | id _ => rfl
  | self => rfl
  | named name => exact congrArg (·.get? name) h.names

end World.Alike

/-! ## Machines side by side -/

/-- Two waiting actions that differ in the ways of their calls, and in
whether the interceptor sees the answer. -/
structure Waiting.Alike (f : Route → Route) (w w' : Waiting κ ι) : Prop where
  caller : w'.caller = w.caller
  action : w'.action = w.action.reroute f
  request : w'.request = w.request
  rest : w'.rest = w.rest.map (Action.reroute f)

/-- Two machines that differ in their pages and in the ways of their calls. -/
structure Machine.Alike (f : Route → Route) (m m' : Machine σ κ ι) : Prop where
  world : World.Alike f m.world m'.world
  control : m'.control = m.control.reroute f
  stack : List.Forall₂ (fun frame frame' => frame.1.Alike f frame'.1 ∧ frame'.2 = frame.2)
    m.stack m'.stack

/-- Two plans that come to the same for the provider. -/
inductive Plan.Alike (f : Route → Route) : Plan σ ι → Plan σ ι → Prop
  | finish {result result' : Result ι} {world world' : World σ ι} :
      result.Alike result' → World.Alike f world world' →
      Alike f (.finish result world) (.finish result' world')
  | ask (request : Request ι (Handler ι)) (watched watched' : Bool) :
      Alike f (.ask request watched) (.ask request watched')
  | throw : Alike f .throw .throw

namespace Machine

section Settle

variable {P : Provider σ κ ι (Handler ι)} {world world' : World σ ι} {w w' : Waiting κ ι}

theorem answered_alike [DecidableEq ι] (h : World.Alike f world world') (hw : w.Alike f w')
    (result : Except TimerError (Answer ι)) :
    World.Alike f (answered world w result) (answered world' w' result) := by
  -- the interceptor may see the answer on one side and not on the other
  have hpage : World.Alike f
      (if w.watched then world.turnPage (world.page.note w.request result) else world)
      (if w'.watched then world'.turnPage (world'.page.note w'.request result) else world') := by
    split <;> split <;> exact ⟨h.provider, h.names, h.log⟩
  unfold answered
  rw [hw.caller, hw.action]
  exact (hpage.bindName w.action result).did w.caller w.action (Or.inl rfl)

/-- The provider's move is taken over on both sides; a callback that it runs
sends its calls another way. -/
theorem settle_alike [DecidableEq ι] (h : World.Alike f world world') (hw : w.Alike f w')
    {stack stack' : List (Waiting κ ι × κ)}
    (hstack : List.Forall₂ (fun frame frame' => frame.1.Alike f frame'.1 ∧ frame'.2 = frame.2)
      stack stack') (move : Move σ κ ι (Handler ι)) :
    Alike f (settle P world w stack move) (settle (P.rerouted f) world' w' stack' (move.reroute f)) := by
  obtain ⟨events, state, outcome⟩ := move
  have hmoved : World.Alike f ({ world with provider := state }.journaled events)
      ({ world' with provider := state }.journaled events) := ⟨rfl, h.names, h.log⟩
  cases outcome with
  | answer result =>
      refine ⟨answered_alike hmoved hw result, ?_, hstack⟩
      show Control.run w'.caller w'.rest = _
      rw [hw.caller, hw.rest]
      rfl
  | rethrow => exact ⟨hmoved, rfl, hstack⟩
  | invoke firing suspended =>
      refine ⟨hmoved.started firing _, ?_, .cons ⟨hw, rfl⟩ hstack⟩
      show Control.run (.callback firing.id) ((firing.reroute f).callback.actions firing.count) = _
      rw [Firing.reroute, Handler.actions_reroute]
      rfl

end Settle

variable [DecidableEq ι] [Identifier ι] {P : Provider σ κ ι (Handler ι)}

/-- Nothing that a program can see of its page makes it ask something else. -/
theorem plan_alike {world world' : World σ ι} (h : World.Alike f world world') (caller : Caller ι)
    (action : Action ι) :
    Plan.Alike f (plan P world caller action)
      (plan (P.rerouted f) world' caller (action.reroute f)) := by
  have hpage : ∀ page page' : Page ι, World.Alike f { world with page } { world' with page := page' } :=
    fun _ _ => ⟨h.provider, h.names, h.log⟩
  cases action with
  | installInterceptor => exact .finish (Or.inr ⟨rfl, rfl⟩) ⟨h.provider, h.names, h.log⟩
  | installMonitor settings =>
      cases settings with
      | error e => exact .finish (Or.inl rfl) h
      | ok settings => exact .finish (Or.inr ⟨rfl, rfl⟩) ⟨h.provider, h.names, h.log⟩
  | installProbes probes => exact .finish (Or.inr ⟨rfl, rfl⟩) ⟨h.provider, h.names, h.log⟩
  | schedule route kind delay name handler => exact .ask _ _ _
  | clear route kind target =>
      simp only [plan, Action.reroute, h.resolve caller target]
      cases world.resolve caller target with
      | none => exact .finish (Or.inl rfl) h
      | some id => exact .ask _ _ _
  | drain drain => exact .ask _ _ _
  | now =>
      refine .finish (Or.inl ?_) h
      exact congrArg (fun state => Result.instant (P.now state)) h.provider.symm
  | pending =>
      refine .finish (Or.inl ?_) h
      exact congrArg (fun state => Result.waiting (P.pending state)) h.provider.symm
  | setGlobal name value => exact .finish (Or.inl rfl) (hpage _ _)
  | getGlobal name => exact .finish (Or.inr ⟨rfl, rfl⟩) h
  | removeGlobal name => exact .finish (Or.inr ⟨rfl, rfl⟩) (hpage _ _)
  | setFlag name raised => exact .finish (Or.inl rfl) (hpage _ _)
  | completed => exact .finish (Or.inr ⟨rfl, rfl⟩) (h.journaled _ _)
  | probeNames => exact .finish (Or.inr ⟨rfl, rfl⟩) h
  | outstanding => exact .finish (Or.inr ⟨rfl, rfl⟩) h
  | contains target =>
      simp only [plan, Action.reroute, h.resolve caller target]
      cases world.resolve caller target with
      | none => exact .finish (Or.inl rfl) h
      | some id => exact .finish (Or.inr ⟨rfl, rfl⟩) h
  | describe => exact .finish (Or.inr ⟨rfl, rfl⟩) h
  | throw => exact .throw

/-- The provider is told the same on both sides. -/
theorem Alike.contact? {m m' : Machine σ κ ι} (h : Alike f m m') :
    m'.contact? (P.rerouted f) = m.contact? P := by
  obtain ⟨world, control, stack⟩ := m
  obtain ⟨world', control', stack'⟩ := m'
  obtain ⟨hworld, rfl, hstack⟩ := h
  cases control with
  | halt _ => rfl
  | unwind => cases hstack <;> rfl
  | run caller actions =>
      cases actions with
      | nil => cases hstack <;> rfl
      | cons action rest =>
          have hplan := plan_alike (P := P) hworld caller action
          simp only [Machine.contact?, Control.reroute, List.map_cons]
          -- of the two plans nothing matters but that they are alike
          generalize plan P world caller action = before at hplan ⊢
          generalize plan (P.rerouted f) world' caller (action.reroute f) = after at hplan ⊢
          cases hplan <;> rfl

/-- Machines that are alike take steps that are alike. -/
theorem Alike.step {m m' : Machine σ κ ι} (h : Alike f m m') :
    Alike f (m.step P) (m'.step (P.rerouted f)) := by
  obtain ⟨world, control, stack⟩ := m
  obtain ⟨world', control', stack'⟩ := m'
  obtain ⟨hworld, rfl, hstack⟩ := h
  have hprovider : world'.provider = world.provider := hworld.provider
  cases control with
  | halt _ => exact ⟨hworld, rfl, hstack⟩
  | unwind =>
      cases hstack with
      | nil => exact ⟨hworld, rfl, .nil⟩
      | @cons frame frame' _ _ hframe hrest =>
          simp only [Machine.step, Control.reroute, hframe.2, hprovider]
          exact settle_alike hworld hframe.1 hrest _
  | run caller actions =>
      cases actions with
      | nil =>
          cases hstack with
          | nil => exact ⟨hworld, rfl, .nil⟩
          | @cons frame frame' _ _ hframe hrest =>
              simp only [Machine.step, Control.reroute, List.map_nil, hframe.2, hprovider]
              exact settle_alike hworld hframe.1 hrest _
      | cons action rest =>
          have hplan := plan_alike (P := P) hworld caller action
          simp only [Machine.step, Control.reroute, List.map_cons, hprovider]
          generalize plan P world caller action = before at hplan ⊢
          generalize plan (P.rerouted f) world' caller (action.reroute f) = after at hplan ⊢
          cases hplan with
          | throw => exact ⟨hworld, rfl, hstack⟩
          | finish hresult hfinish => exact ⟨hfinish.did caller action hresult, rfl, hstack⟩
          | ask request watched watched' =>
              have hw : Waiting.Alike f (⟨caller, action, request, watched, rest⟩ : Waiting κ ι)
                  ⟨caller, action.reroute f, request, watched', rest.map (Action.reroute f)⟩ :=
                ⟨rfl, rfl, rfl, rfl⟩
              exact settle_alike hworld hw hstack _

omit [DecidableEq ι] [Identifier ι] in
theorem Alike.ended? {m m' : Machine σ κ ι} (h : Alike f m m') : m'.ended? = m.ended? := by
  unfold Machine.ended?
  rw [h.control]
  cases m.control <;> rfl

end Machine

/-! ## Whole runs -/

namespace Session

/-- A harness with all of its actions before it, on a page with a provider in
the given state. -/
def on (state : σ) (page : Page ι) (actions : List (Action ι)) : Session σ κ ι :=
  start ⟨state, page, [], [], []⟩ actions

/-- Two sessions that differ in their pages and in the ways of their calls. -/
structure Alike (f : Route → Route) (s s' : Session σ κ ι) : Prop where
  machine : s.machine.Alike f s'.machine
  coming : s'.coming = s.coming.map (Action.reroute f)

variable [DecidableEq ι] [Identifier ι] {P : Provider σ κ ι (Handler ι)}

theorem Alike.step {s s' : Session σ κ ι} (h : Alike f s s') :
    Alike f (s.step P) (s'.step (P.rerouted f)) := by
  obtain ⟨m, coming⟩ := s
  obtain ⟨m', coming'⟩ := s'
  obtain ⟨hmachine, rfl⟩ := h
  have hended : m'.ended? = m.ended? := hmachine.ended?
  unfold Session.step
  simp only [hended]
  cases m.ended? with
  | none => exact ⟨hmachine.step, rfl⟩
  | some ended =>
      cases coming with
      | nil => exact ⟨hmachine, rfl⟩
      | cons action rest => exact ⟨⟨hmachine.world, rfl, .nil⟩, rfl⟩

theorem Alike.after {s s' : Session σ κ ι} (h : Alike f s s') (n : Nat) :
    Alike f (s.after P n) (s'.after (P.rerouted f) n) := by
  induction n with
  | zero => exact h
  | succ n ih => exact ih.step

theorem Alike.contacts {s s' : Session σ κ ι} (h : Alike f s s') (n : Nat) :
    s'.contacts (P.rerouted f) n = s.contacts P n := by
  induction n with
  | zero => rfl
  | succ n ih =>
      have hcontact : ((s'.after (P.rerouted f) n).contact? (P.rerouted f)) =
          ((s.after P n).contact? P) := (h.after n).machine.contact?
      rw [Session.contacts, Session.contacts, ih, hcontact]

/-- In `n` steps of two runs the same happens to timers, but for the ways that
calls take. -/
structure SameTimers (f : Route → Route) (P P' : Provider σ κ ι (Handler ι))
    (s s' : Session σ κ ι) (n : Nat) : Prop where
  /-- The provider is asked the same, and told of the same ends of callbacks. -/
  contacts : s'.contacts P' n = s.contacts P n
  /-- The same calls get the same answers, and the same callbacks are started
  when the clock shows the same, in the same order. -/
  log : (s'.after P' n).machine.world.log.filter Entry.isOfTimers =
    ((s.after P n).machine.world.log.filter Entry.isOfTimers).map (Entry.reroute f)
  provider : (s'.after P' n).machine.world.provider = (s.after P n).machine.world.provider
  ended : (s'.after P' n).machine.ended? = (s.after P n).machine.ended?

theorem Alike.sameTimers {s s' : Session σ κ ι} (h : Alike f s s') (n : Nat) :
    SameTimers f P (P.rerouted f) s s' n where
  contacts := h.contacts n
  log := (h.after n).machine.world.log
  provider := (h.after n).machine.world.provider
  ended := (h.after n).machine.ended?

omit [DecidableEq ι] [Identifier ι] in
theorem on_alike (f : Route → Route) (state : σ) (page page' : Page ι) (actions : List (Action ι)) :
    Alike f (on state page actions : Session σ κ ι)
      (on state page' (actions.map (Action.reroute f))) :=
  ⟨⟨⟨rfl, rfl, rfl⟩, rfl, .nil⟩, rfl⟩

/-- **The interceptor is transparent.**  Take any provider, and any program on
any page, intercepted or not.  However its calls are rerouted, all of them to
the provider itself for one, and whatever the page is instead: at every moment
the same has happened to timers.  In particular the program as it is cannot
tell an intercepted page from a bare one, where calls through the page are
calls of the provider. -/
theorem interceptor_transparent (P : Provider σ κ ι (Handler ι)) (state : σ) (page page' : Page ι)
    (actions : List (Action ι)) (n : Nat) :
    (∀ f : Route → Route, SameTimers f P (P.rerouted f) (on state page actions)
      (on state page' (actions.map (Action.reroute f))) n) ∧
    SameTimers id P P (on state page actions) (on state page' actions) n := by
  have hall : ∀ f : Route → Route, SameTimers f P (P.rerouted f) (on state page actions)
      (on state page' (actions.map (Action.reroute f))) n :=
    fun f => (on_alike f state page page' actions).sameTimers n
  refine ⟨hall, ?_⟩
  have hid := hall id
  rw [P.rerouted_id, show Action.reroute (ι := ι) id = id from funext Action.reroute_id,
    List.map_id] at hid
  exact hid

end Session

end PageTimers
