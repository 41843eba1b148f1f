/-
# How programs and providers meet

A running program and its provider know little of each other.  The provider
sees *contacts*: it is asked something, or told how the callback that it
waits for has ended.  All that the provider can see of the program is the
list of contacts so far, and all that the program can see of the provider
follows from how it *serves* them.  So what a provider guarantees is proved
over all lists of contacts, once, and `Session.site_after` carries it over to
whole runs.

`Course` is all that a step of the machine can be.  Whatever a step is to
preserve, here or in the modules that follow, is proved by cases on it.

A `Session` is a whole run: a harness that goes on after each of its
actions, also when that action threw.  It moves in the steps of the machine;
`Session.passes_run` says that every run of the machine is part of one.
-/
import PageTimers.Program.Session

namespace PageTimers

/-- Where a list is cut, its last entry is cut off or comes after the cut. -/
theorem snoc_eq_append_cons {α : Type} {l before after : List α} {x y : α}
    (h : l ++ [x] = before ++ y :: after) :
    (after = [] ∧ y = x ∧ before = l) ∨ ∃ rest, after = rest ++ [x] ∧ l = before ++ y :: rest := by
  rcases List.eq_nil_or_concat after with rfl | ⟨rest, last, rfl⟩
  · obtain ⟨hl, hx⟩ := List.append_inj' h rfl
    exact Or.inl ⟨rfl, (List.singleton_inj.mp hx).symm, hl.symm⟩
  · rw [List.concat_eq_append, ← List.cons_append, ← List.append_assoc] at h
    obtain ⟨hl, hx⟩ := List.append_inj' h rfl
    refine Or.inr ⟨rest, ?_, hl⟩
    rw [List.concat_eq_append, List.singleton_inj.mp hx]

/-- What reaches a provider. -/
inductive Contact (ι α : Type)
  | ask (request : Request ι α)
  /-- The callback that it waits for has ended. -/
  | ended (ended : Ended)

/-- Where a provider stands: its state and its suspended requests, the
innermost first. -/
structure Site (σ κ : Type) where
  state : σ
  suspended : List κ

section Serve

variable {σ κ ι α : Type}

/-- The suspended request that a move adds. -/
def Outcome.suspended? : Outcome κ ι α → Option κ
  | answer _ => none
  | invoke _ suspended => some suspended
  | rethrow => none

/-- Where a move leads. -/
def Move.land (move : Move σ κ ι α) (suspended : List κ) : Site σ κ :=
  ⟨move.state, move.outcome.suspended?.toList ++ suspended⟩

/-- How a provider serves a contact.  No callback can end when none runs. -/
def Provider.serve (P : Provider σ κ ι α) : Contact ι α → Site σ κ → Site σ κ
  | .ask request, site => (P.ask request site.state).land site.suspended
  | .ended ended, ⟨state, k :: rest⟩ => (P.resume k ended state).land rest
  | .ended _, ⟨state, []⟩ => ⟨state, []⟩

/-- Where serving contacts leads, one after the other. -/
def Provider.serveAll (P : Provider σ κ ι α) (contacts : List (Contact ι α)) (site : Site σ κ) :
    Site σ κ :=
  contacts.foldl (fun site c => P.serve c site) site

/-- The callback that a move starts, and what the clock shows then. -/
def Provider.startedBy? (P : Provider σ κ ι α) (move : Move σ κ ι α) : Option (Firing ι α × Nat) :=
  match move.outcome with
  | .answer _ => none
  | .invoke firing _ => some (firing, P.now move.state)
  | .rethrow => none

/-- The callback that serving a contact starts. -/
def Provider.started? (P : Provider σ κ ι α) : Contact ι α → Site σ κ → Option (Firing ι α × Nat)
  | .ask request, site => P.startedBy? (P.ask request site.state)
  | .ended ended, ⟨state, k :: _⟩ => P.startedBy? (P.resume k ended state)
  | .ended _, ⟨_, []⟩ => none

end Serve

/-- The start that an entry of the log records. -/
def Entry.start? {ι : Type} : Entry ι → Option (Firing ι (Handler ι) × Nat)
  | started firing now => some (firing, now)
  | did .. => none

/-! ## The machine -/

namespace World

variable {σ κ ι : Type}

@[simp] theorem record_provider (world : World σ ι) (entry : Entry ι) :
    (world.record entry).provider = world.provider := rfl

@[simp] theorem journaled_provider (world : World σ ι) (events : List (Event ι)) :
    (world.journaled events).provider = world.provider := rfl

@[simp] theorem turnPage_provider (world : World σ ι) (change : Page ι × List (Event ι)) :
    (world.turnPage change).provider = world.provider := rfl

@[simp] theorem journaled_log (world : World σ ι) (events : List (Event ι)) :
    (world.journaled events).log = world.log := rfl

@[simp] theorem turnPage_log (world : World σ ι) (change : Page ι × List (Event ι)) :
    (world.turnPage change).log = world.log := rfl

@[simp] theorem bindName_log (world : World σ ι) (action : Action ι)
    (result : Except TimerError (Answer ι)) : (world.bindName action result).log = world.log := by
  unfold bindName; split <;> rfl

@[simp] theorem bindName_provider (world : World σ ι) (action : Action ι)
    (result : Except TimerError (Answer ι)) :
    (world.bindName action result).provider = world.provider := by
  unfold bindName; split <;> rfl

end World

namespace Machine

variable {σ κ ι : Type}

/-- Where the provider stands. -/
def site (m : Machine σ κ ι) : Site σ κ := ⟨m.world.provider, m.stack.map (·.2)⟩

variable [DecidableEq ι] [Identifier ι]

/-- What reaches the provider in the next step, if anything does. -/
def contact? (P : Provider σ κ ι (Handler ι)) (m : Machine σ κ ι) :
    Option (Contact ι (Handler ι)) :=
  match m.control, m.stack with
  | .halt _, _ => none
  | .run caller (action :: _), _ =>
    match plan P m.world caller action with
    | .finish .. => none
    | .ask request _ => some (.ask request)
    | .throw => none
  | .run _ [], [] => none
  | .run _ [], _ :: _ => some (.ended .returned)
  | .unwind, [] => none
  | .unwind, _ :: _ => some (.ended .thrown)

variable {P : Provider σ κ ι (Handler ι)}

/-- What is done at once is done without the provider, and writes no log. -/
theorem plan_finish {world world' : World σ ι} {caller : Caller ι} {action : Action ι}
    {result : Result ι} (h : plan P world caller action = .finish result world') :
    world'.provider = world.provider ∧ world'.log = world.log := by
  unfold plan at h
  split at h
  all_goals first
    | (cases h; done)
    | (cases h; exact ⟨rfl, rfl⟩)
    | (split at h <;> cases h <;> exact ⟨rfl, rfl⟩)

/-- What is done at once is not answered by the provider. -/
theorem plan_finish_result {world world' : World σ ι} {caller : Caller ι} {action : Action ι}
    {result : Result ι} (h : plan P world caller action = .finish result world')
    (answer : Except TimerError (Answer ι)) : result ≠ .answered answer := by
  rintro rfl
  unfold plan at h
  split at h
  all_goals first
    | cases h
    | (split at h <;> cases h)

/-- The provider is asked what the action says. -/
theorem plan_ask {world : World σ ι} {caller : Caller ι} {action : Action ι}
    {request : Request ι (Handler ι)} {watched : Bool}
    (h : plan P world caller action = .ask request watched) :
    (∃ route kind delay name handler, action = .schedule route kind delay name handler ∧
      request = .schedule kind handler delay ∧ watched = isWatched world route) ∨
    (∃ route kind target id, action = .clear route kind target ∧
      world.resolve caller target = some id ∧ request = .clear kind id ∧
      watched = isWatched world route) ∨
    ∃ drain, action = .drain drain ∧ request = .drain drain ∧ watched = false := by
  cases action with
  | schedule route kind delay name handler =>
      cases h
      exact Or.inl ⟨route, kind, delay, name, handler, rfl, rfl, rfl⟩
  | clear route kind target =>
      simp only [plan] at h
      split at h
      · cases h
      · next id hid =>
        cases h
        exact Or.inr (Or.inl ⟨route, kind, target, id, rfl, hid, rfl, rfl⟩)
  | drain drain =>
      cases h
      exact Or.inr (Or.inr ⟨drain, rfl, rfl, rfl⟩)
  | installMonitor settings => cases settings <;> cases h
  | contains target =>
      simp only [plan] at h
      split at h <;> cases h
  | _ => cases h

theorem plan_throw {world : World σ ι} {caller : Caller ι} {action : Action ι}
    (h : plan P world caller action = .throw) : action = .throw := by
  cases action with
  | throw => rfl
  | installMonitor settings => cases settings <;> cases h
  | clear _ _ _ | contains _ =>
      simp only [plan] at h
      split at h <;> cases h
  | _ => cases h

omit [Identifier ι] in
@[simp] theorem answered_provider (world : World σ ι) (w : Waiting κ ι)
    (result : Except TimerError (Answer ι)) :
    (answered world w result).provider = world.provider := by
  unfold answered; split <;> simp

omit [Identifier ι] in
/-- Settling a move takes over its state and what it leaves suspended. -/
theorem site_settle (world : World σ ι) (w : Waiting κ ι) (stack : List (Waiting κ ι × κ))
    (move : Move σ κ ι (Handler ι)) :
    (settle P world w stack move).site = move.land (stack.map (·.2)) := by
  unfold settle Move.land Outcome.suspended?
  cases move.outcome <;> simp [site]

omit [Identifier ι] in
theorem settle_provider (world : World σ ι) (w : Waiting κ ι) (stack : List (Waiting κ ι × κ))
    (move : Move σ κ ι (Handler ι)) :
    (settle P world w stack move).world.provider = move.state :=
  congrArg Site.state (site_settle (P := P) world w stack move)

/-- What a step can be, with what reaches the provider in it. -/
inductive Course (P : Provider σ κ ι (Handler ι)) :
    Machine σ κ ι → Option (Contact ι (Handler ι)) → Machine σ κ ι → Prop
  /-- A program that has come to its end stays there. -/
  | stays (world : World σ ι) (ended : Ended) (stack : List (Waiting κ ι × κ)) :
      Course P ⟨world, .halt ended, stack⟩ none ⟨world, .halt ended, stack⟩
  | halts (world : World σ ι) (control : Control ι) (ended : Ended) :
      Course P ⟨world, control, []⟩ none ⟨world, .halt ended, []⟩
  | throws {world : World σ ι} {caller : Caller ι} {action : Action ι} (rest : List (Action ι))
      (stack : List (Waiting κ ι × κ)) :
      plan P world caller action = .throw →
      Course P ⟨world, .run caller (action :: rest), stack⟩ none ⟨world, .unwind, stack⟩
  | did {world world' : World σ ι} {caller : Caller ι} {action : Action ι} {result : Result ι}
      (rest : List (Action ι)) (stack : List (Waiting κ ι × κ)) :
      plan P world caller action = .finish result world' →
      Course P ⟨world, .run caller (action :: rest), stack⟩ none
        ⟨world'.record (.did caller action result), .run caller rest, stack⟩
  | asked {world : World σ ι} {caller : Caller ι} {action : Action ι}
      {request : Request ι (Handler ι)} {watched : Bool} (rest : List (Action ι))
      (stack : List (Waiting κ ι × κ)) :
      plan P world caller action = .ask request watched →
      Course P ⟨world, .run caller (action :: rest), stack⟩ (some (.ask request))
        (settle P world ⟨caller, action, request, watched, rest⟩ stack
          (P.ask request world.provider))
  /-- The innermost callback has come to its end. -/
  | ended (world : World σ ι) (control : Control ι) (frame : Waiting κ ι × κ)
      (stack : List (Waiting κ ι × κ)) (ended : Ended) :
      Course P ⟨world, control, frame :: stack⟩ (some (.ended ended))
        (settle P world frame.1 stack (P.resume frame.2 ended world.provider))

/-- Whatever is to hold after a step is proved by cases on its course. -/
theorem course_step (m : Machine σ κ ι) : Course P m (m.contact? P) (m.step P) := by
  obtain ⟨world, control, stack⟩ := m
  cases control with
  | halt ended => exact .stays world ended stack
  | unwind =>
      cases stack with
      | nil => exact .halts world .unwind .thrown
      | cons frame stack => exact .ended world .unwind frame stack .thrown
  | run caller actions =>
      cases actions with
      | nil =>
          cases stack with
          | nil => exact .halts world (.run caller []) .returned
          | cons frame stack => exact .ended world (.run caller []) frame stack .returned
      | cons action rest =>
          simp only [step, contact?]
          cases hplan : plan P world caller action with
          | finish result world' => exact .did rest stack hplan
          | ask request watched => exact .asked rest stack hplan
          | throw => exact .throws rest stack hplan

theorem course_of_contact {m : Machine σ κ ι} {c : Contact ι (Handler ι)}
    (hc : m.contact? P = some c) : Course P m (some c) (m.step P) :=
  hc ▸ m.course_step

variable {m m' : Machine σ κ ι} {c : Option (Contact ι (Handler ι))}

/-- A step takes the provider wherever serving its contact takes it, and
nowhere without one. -/
theorem Course.site (h : Course P m c m') :
    m'.site = c.elim m.site fun c => P.serve c m.site := by
  cases h with
  | stays | halts | throws => rfl
  | did rest stack hplan => simp [Machine.site, (plan_finish hplan).1]
  | asked => exact site_settle _ _ _ _
  | ended => exact site_settle _ _ _ _

omit [Identifier ι] in
theorem starts_settle (world : World σ ι) (w : Waiting κ ι) (stack : List (Waiting κ ι × κ))
    (move : Move σ κ ι (Handler ι)) :
    (settle P world w stack move).world.log.filterMap Entry.start? =
      (P.startedBy? move).toList ++ world.log.filterMap Entry.start? := by
  unfold settle Provider.startedBy?
  cases move.outcome with
  | answer result =>
      simp only [answered]
      split <;> exact (List.filterMap_cons_none rfl).trans (by simp)
  | invoke firing suspended => exact List.filterMap_cons_some rfl
  | rethrow => rfl

/-- The log records the callbacks that the provider starts, and no others. -/
theorem Course.starts (h : Course P m c m') :
    m'.world.log.filterMap Entry.start? =
      (c.bind fun c => P.started? c m.site).toList ++ m.world.log.filterMap Entry.start? := by
  cases h with
  | stays | halts | throws => rfl
  | did rest stack hplan =>
      rw [← (plan_finish hplan).2]
      exact List.filterMap_cons_none rfl
  | asked => exact starts_settle _ _ _ _
  | ended => exact starts_settle _ _ _ _

omit [Identifier ι] in
theorem answered_log (world : World σ ι) (w : Waiting κ ι)
    (result : Except TimerError (Answer ι)) :
    (answered world w result).log = .did w.caller w.action (.answered result) :: world.log := by
  simp only [answered, World.record]
  split <;> simp

/-- A request that is answered at once is answered in the log. -/
theorem Course.log_of_answer {request : Request ι (Handler ι)}
    {result : Except TimerError (Answer ι)} (h : Course P m (some (.ask request)) m')
    (hanswer : (P.ask request m.world.provider).outcome = .answer result) :
    ∃ caller action, m'.world.log = .did caller action (.answered result) :: m.world.log := by
  cases h with
  | @asked world caller action _ watched rest stack hplan =>
      refine ⟨caller, action, ?_⟩
      simp only [settle, show (P.ask request world.provider).outcome = _ from hanswer]
      exact answered_log _ _ _

/-- A halted machine has nothing left to do. -/
def Settled (m : Machine σ κ ι) : Prop := m.ended?.isSome → m.stack = []

omit [DecidableEq ι] [Identifier ι] in
theorem settled_of_running {m : Machine σ κ ι} (h : m.ended? = none) : m.Settled :=
  fun hs => by rw [h] at hs; cases hs

omit [Identifier ι] in
theorem ended?_settle (world : World σ ι) (w : Waiting κ ι) (stack : List (Waiting κ ι × κ))
    (move : Move σ κ ι (Handler ι)) : (settle P world w stack move).ended? = none := by
  unfold settle; cases move.outcome <;> rfl

theorem Settled.course (hm : m.Settled) (h : Course P m c m') : m'.Settled := by
  cases h with
  | stays => exact hm
  | halts => exact fun _ => rfl
  | throws | did => exact settled_of_running rfl
  | asked | ended => exact settled_of_running (ended?_settle ..)

end Machine

/-! ## Whole runs -/

/-- A harness in the course of its actions. -/
structure Session (σ κ ι : Type) where
  machine : Machine σ κ ι
  /-- What the harness does next, however the present action ends. -/
  coming : List (Action ι)

namespace Session

variable {σ κ ι : Type}

/-- A harness with all of its actions before it. -/
def start (world : World σ ι) (actions : List (Action ι)) : Session σ κ ι :=
  ⟨.load world [], actions⟩

def site (s : Session σ κ ι) : Site σ κ := s.machine.site

variable [DecidableEq ι] [Identifier ι]

/-- One step of the machine; when that has halted, the harness goes on. -/
def step (P : Provider σ κ ι (Handler ι)) (s : Session σ κ ι) : Session σ κ ι :=
  match s.machine.ended?, s.coming with
  | none, _ => ⟨s.machine.step P, s.coming⟩
  | some _, [] => s
  | some _, action :: rest => ⟨.load s.machine.world [action], rest⟩

/-- The session after a number of steps. -/
def after (P : Provider σ κ ι (Handler ι)) (s : Session σ κ ι) : (steps : Nat) → Session σ κ ι
  | 0 => s
  | n + 1 => (s.after P n).step P

/-- What reaches the provider in the next step, if anything does. -/
def contact? (P : Provider σ κ ι (Handler ι)) (s : Session σ κ ι) :
    Option (Contact ι (Handler ι)) :=
  s.machine.contact? P

/-- What has reached the provider in a number of steps, in order. -/
def contacts (P : Provider σ κ ι (Handler ι)) (s : Session σ κ ι) :
    (steps : Nat) → List (Contact ι (Handler ι))
  | 0 => []
  | n + 1 => s.contacts P n ++ ((s.after P n).contact? P).toList

variable {P : Provider σ κ ι (Handler ι)}

/-- While an action goes on, the machine takes its steps. -/
theorem step_of_running {s : Session σ κ ι} (h : s.machine.ended? = none) :
    s.step P = ⟨s.machine.step P, s.coming⟩ := by
  rw [step, h]

theorem step_of_over {s : Session σ κ ι} (h : s.machine.ended?.isSome) (hcoming : s.coming = []) :
    s.step P = s := by
  obtain ⟨ended, hended⟩ := Option.isSome_iff_exists.mp h
  rw [step, hended, hcoming]

theorem step_of_next {s : Session σ κ ι} (h : s.machine.ended?.isSome) {action : Action ι}
    {rest : List (Action ι)} (hcoming : s.coming = action :: rest) :
    s.step P = ⟨.load s.machine.world [action], rest⟩ := by
  obtain ⟨ended, hended⟩ := Option.isSome_iff_exists.mp h
  rw [step, hended, hcoming]

theorem after_succ' (s : Session σ κ ι) :
    ∀ n : Nat, s.after P (n + 1) = (s.step P).after P n
  | 0 => rfl
  | n + 1 => by
      show (s.after P (n + 1)).step P = ((s.step P).after P n).step P
      rw [after_succ' s n]

theorem after_add (s : Session σ κ ι) (n : Nat) :
    ∀ k : Nat, s.after P (n + k) = (s.after P n).after P k
  | 0 => rfl
  | k + 1 => by
      show (s.after P (n + k)).step P = ((s.after P n).after P k).step P
      rw [after_add s n k]

/-- Every run of the machine is part of a session. -/
theorem passes_run (coming : List (Action ι)) :
    ∀ (fuel : Nat) (m : Machine σ κ ι),
      ∃ n, (⟨m, coming⟩ : Session σ κ ι).after P n = ⟨m.run P fuel, coming⟩
  | 0, _ => ⟨0, rfl⟩
  | fuel + 1, m => by
      cases hm : m.ended? with
      | some ended => exact ⟨0, by simp [after, Machine.run, hm]⟩
      | none =>
          obtain ⟨n, hn⟩ := passes_run coming fuel (m.step P)
          refine ⟨n + 1, ?_⟩
          rw [after_succ']
          simpa [step, Machine.run, hm] using hn

/-- A property of machines that every step keeps, and that the next action of
the harness keeps, holds throughout a session. -/
theorem after_invariant {I : Machine σ κ ι → Prop} {s : Session σ κ ι} (h : I s.machine)
    (hstep : ∀ m, I m → I (m.step P))
    (hload : ∀ m, I m → m.ended?.isSome → ∀ action ∈ s.coming, I (.load m.world [action])) :
    ∀ n, I (s.after P n).machine ∧ (s.after P n).coming ⊆ s.coming
  | 0 => ⟨h, List.Subset.refl _⟩
  | n + 1 => by
      obtain ⟨hI, hsub⟩ := after_invariant h hstep hload n
      show I ((s.after P n).step P).machine ∧ ((s.after P n).step P).coming ⊆ s.coming
      unfold step
      split
      · exact ⟨hstep _ hI, hsub⟩
      · exact ⟨hI, hsub⟩
      · next action rest hended hcoming =>
        rw [hcoming] at hsub
        refine ⟨hload _ hI (by rw [hended]; rfl) action (hsub List.mem_cons_self), ?_⟩
        exact fun a ha => hsub (List.mem_cons_of_mem _ ha)

theorem settled_after {s : Session σ κ ι} (hs : s.machine.Settled) (n : Nat) :
    (s.after P n).machine.Settled :=
  (after_invariant hs (fun m hm => hm.course m.course_step)
    (fun _ _ _ _ _ => Machine.settled_of_running rfl) n).1

omit [DecidableEq ι] [Identifier ι] in
theorem settled_start (world : World σ ι) (actions : List (Action ι)) :
    (start world actions : Session σ κ ι).machine.Settled :=
  Machine.settled_of_running rfl

theorem contact?_of_ended {s : Session σ κ ι} (h : s.machine.ended?.isSome) :
    s.contact? P = none := by
  obtain ⟨⟨world, control, stack⟩, coming⟩ := s
  cases control with
  | halt _ => rfl
  | run _ _ => cases h
  | unwind => cases h

section OfContact

variable {s : Session σ κ ι} {c : Contact ι (Handler ι)}

theorem step_of_contact (hc : s.contact? P = some c) :
    s.step P = ⟨s.machine.step P, s.coming⟩ := by
  refine step_of_running ?_
  cases hended : s.machine.ended? with
  | none => rfl
  | some ended =>
      rw [contact?_of_ended (by rw [hended]; rfl)] at hc
      cases hc

/-- What reaches the provider is what it serves next. -/
theorem site_of_contact (hc : s.contact? P = some c) : (s.step P).site = P.serve c s.site := by
  rw [step_of_contact hc]
  exact (Machine.course_of_contact hc).site

/-- A request that is answered at once is answered in the log. -/
theorem log_of_answer {request : Request ι (Handler ι)} {result : Except TimerError (Answer ι)}
    (hc : s.contact? P = some (.ask request))
    (hanswer : (P.ask request s.machine.world.provider).outcome = .answer result) :
    ∃ caller action, (s.step P).machine.world.log =
      .did caller action (.answered result) :: s.machine.world.log := by
  rw [step_of_contact hc]
  exact (Machine.course_of_contact hc).log_of_answer hanswer

end OfContact

/-- A step of a session takes the provider where serving its contact takes
it. -/
theorem site_step {s : Session σ κ ι} (hs : s.machine.Settled) :
    (s.step P).site = ((s.contact? P).elim s.site fun c => P.serve c s.site) := by
  have hm := (s.machine.course_step (P := P)).site
  unfold step site
  split
  · exact hm
  · next hended _ =>
    rw [contact?_of_ended (by rw [hended]; rfl)]
    rfl
  · next action rest hended _ =>
    have hstack : s.machine.stack = [] := hs (by rw [hended]; rfl)
    rw [contact?_of_ended (by rw [hended]; rfl)]
    simp [Machine.site, Machine.load, hstack]

/-- A step of a session logs the callback that the provider starts. -/
theorem starts_step (s : Session σ κ ι) :
    (s.step P).machine.world.log.filterMap Entry.start? =
      ((s.contact? P).bind fun c => P.started? c s.site).toList ++
        s.machine.world.log.filterMap Entry.start? := by
  have hm := (s.machine.course_step (P := P)).starts
  unfold step
  split
  · exact hm
  · next hended _ => rw [contact?_of_ended (by rw [hended]; rfl)]; rfl
  · next hended _ => rw [contact?_of_ended (by rw [hended]; rfl)]; rfl

/-- Throughout a session the provider stands where serving the contacts so
far has taken it. -/
theorem site_after {s : Session σ κ ι} (hs : s.machine.Settled) (n : Nat) :
    (s.after P n).site = P.serveAll (s.contacts P n) s.site := by
  induction n with
  | zero => rfl
  | succ n ih =>
      show ((s.after P n).step P).site = _
      rw [site_step (settled_after hs n), ih, contacts, Provider.serveAll, Provider.serveAll,
        List.foldl_append]
      cases (s.after P n).contact? P <;> rfl

theorem mem_contacts {s : Session σ κ ι} {c : Contact ι (Handler ι)} {n : Nat} :
    c ∈ s.contacts P n ↔ ∃ k < n, (s.after P k).contact? P = some c := by
  induction n with
  | zero =>
      refine iff_of_false List.not_mem_nil ?_
      rintro ⟨k, hk, -⟩
      exact Nat.not_lt_zero k hk
  | succ n ih =>
      simp only [contacts, List.mem_append, ih, Option.mem_toList,
        Nat.lt_succ_iff_lt_or_eq, or_and_right, exists_or, exists_eq_left]

end Session

end PageTimers
