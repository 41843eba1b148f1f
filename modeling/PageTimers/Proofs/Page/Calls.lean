/-
# What comes back through the interceptor, and what is written

A timer call that the page makes goes past the interceptor on its way back.
`Machine.call?` is the call that comes back so in a step, if one does.  It
counts from the moment it comes back: a callback that runs inside a schedule
call may make calls of its own, and those come back first.

Three parties write the journal, each of them in one place:

    the provider        with its moves
    the interceptor     when an answer passes
    the page            when something is done at once

`Tells` is all that the latter two can write in a step, with the call that
comes back in it and what becomes of the set of outstanding timers.
-/
import PageTimers.Proofs.Page.Tracking

namespace PageTimers

/-! ## Calls and events -/

/-- A timer call that the interceptor saw, with what came of it. -/
structure Call (ι : Type) where
  request : Request ι (Handler ι)
  result : Except TimerError (Answer ι)

/-- The call that comes back with a move, if one does and the interceptor sees
it. -/
def Waiting.call? {σ κ ι : Type} (w : Waiting κ ι) (move : Move σ κ ι (Handler ι)) :
    Option (Call ι) :=
  match move.outcome with
  | .answer result => if w.watched then some ⟨w.request, result⟩ else none
  | .invoke .. => none
  | .rethrow => none

theorem Waiting.call?_of_unwatched {σ κ ι : Type} {w : Waiting κ ι} (h : w.watched = false)
    (move : Move σ κ ι (Handler ι)) : w.call? move = none := by
  unfold call?
  rw [h]
  cases move.outcome <;> rfl

namespace Event

variable {ι : Type}

def isOfInterceptor : Event ι → Bool
  | interceptorInstalled => true
  | scheduled .. => true
  | cancelled .. => true
  | _ => false

/-- The start of a callback, as the clock journals it. -/
def fired? : Event ι → Option (ι × TimerKind × Nat)
  | fired id kind now => some (id, kind, now)
  | _ => none

end Event

/-- What a provider journals when it serves a contact. -/
def Provider.events {σ κ ι α : Type} (P : Provider σ κ ι α) :
    Contact ι α → Site σ κ → List (Event ι)
  | .ask request, site => (P.ask request site.state).events
  | .ended ended, ⟨state, k :: _⟩ => (P.resume k ended state).events
  | .ended _, ⟨_, []⟩ => []

/-- What the interceptor and the page can write in a step, with the call that
comes back in it and what becomes of the page. -/
inductive Machine.Tells {ι : Type} [DecidableEq ι] :
    Option (Call ι) → Page ι → List (Event ι) → Page ι → Prop
  | installs {page page' : Page ι} : page.outstanding = none → page'.outstanding = some .empty →
      Tells none page [.interceptorInstalled] page'
  | nothing {page page' : Page ι} {events : List (Event ι)} :
      page'.outstanding = page.outstanding →
      (∀ e ∈ events, e.isOfInterceptor = false ∧ e.fired? = none) → Tells none page events page'
  | call (page : Page ι) (call : Call ι) :
      Tells (some call) page (page.note call.request call.result).2
        (page.note call.request call.result).1

/-- None of it is the start of a callback. -/
theorem Machine.Tells.unfired {ι : Type} [DecidableEq ι] {call : Option (Call ι)}
    {page page' : Page ι} {events : List (Event ι)} (h : Machine.Tells call page events page') :
    events.filterMap Event.fired? = [] := by
  cases h with
  | installs => rfl
  | nothing _ hevents => exact List.filterMap_eq_nil_iff.mpr fun e he => (hevents e he).2
  | call page call =>
      unfold Page.note Page.noteScheduled Page.noteCleared
      split
      · split <;> rfl
      · split <;> rfl
      · rfl

/-! ## The machine -/

namespace World

variable {σ κ ι : Type}

@[simp] theorem record_journal (world : World σ ι) (entry : Entry ι) :
    (world.record entry).journal = world.journal := rfl

@[simp] theorem bindName_journal (world : World σ ι) (action : Action ι)
    (result : Except TimerError (Answer ι)) :
    (world.bindName action result).journal = world.journal := by
  unfold bindName; split <;> rfl

end World

namespace Machine

variable {σ κ ι : Type} [DecidableEq ι] [Identifier ι]

/-- The call that comes back through the interceptor in the next step, if one
does. -/
def call? (P : Provider σ κ ι (Handler ι)) (m : Machine σ κ ι) : Option (Call ι) :=
  match m.control, m.stack with
  | .halt _, _ => none
  | .run caller (action :: rest), _ =>
    match plan P m.world caller action with
    | .finish .. => none
    | .ask request watched =>
      Waiting.call? ⟨caller, action, request, watched, rest⟩ (P.ask request m.world.provider)
    | .throw => none
  | .run _ [], [] => none
  | .run _ [], (w, suspended) :: _ => w.call? (P.resume suspended .returned m.world.provider)
  | .unwind, [] => none
  | .unwind, (w, suspended) :: _ => w.call? (P.resume suspended .thrown m.world.provider)

variable {P : Provider σ κ ι (Handler ι)}

/-- The journal goes on from one world to the next by what the provider writes
and by what the interceptor and the page do. -/
def Writes (own : List (Event ι)) (call : Option (Call ι)) (world world' : World σ ι) : Prop :=
  ∃ told, world'.journal.reverse = world.journal.reverse ++ own ++ told ∧
    Tells call world.page told world'.page

omit [Identifier ι] in
theorem Writes.of_same {world world' : World σ ι} (hjournal : world'.journal = world.journal)
    (hpage : world'.page = world.page) : Writes [] none world world' :=
  ⟨[], by rw [hjournal, List.append_nil, List.append_nil],
    .nothing (congrArg _ hpage) fun _ he => absurd he List.not_mem_nil⟩

omit [Identifier ι] in
theorem Writes.record {own : List (Event ι)} {call : Option (Call ι)} {world world' : World σ ι}
    (h : Writes own call world world') (entry : Entry ι) :
    Writes own call world (world'.record entry) := h

omit [Identifier ι] in
theorem writes_settle (world : World σ ι) (w : Waiting κ ι) (stack : List (Waiting κ ι × κ))
    (move : Move σ κ ι (Handler ι)) :
    Writes move.events (w.call? move) world (settle P world w stack move).world := by
  have hnothing : Tells none world.page ([] : List (Event ι)) world.page :=
    .nothing rfl fun _ he => absurd he List.not_mem_nil
  unfold Waiting.call? settle
  cases move.outcome with
  | invoke firing suspended => exact ⟨[], by simp [World.journaled], hnothing⟩
  | rethrow => exact ⟨[], by simp [World.journaled], hnothing⟩
  | answer result =>
      cases hw : w.watched with
      | false =>
          refine ⟨[], ?_, ?_⟩
          · simp [answered, hw, World.journaled]
          · simpa [answered, hw] using hnothing
      | true =>
          refine ⟨(world.page.note w.request result).2, ?_, ?_⟩
          · simp [answered, hw, World.turnPage, World.journaled]
          · simpa [answered, hw] using Tells.call world.page ⟨w.request, result⟩

/-- What is done at once is written by the page. -/
theorem writes_plan {world world' : World σ ι} {caller : Caller ι} {action : Action ι}
    {result : Result ι} (h : plan P world caller action = .finish result world') :
    Writes [] none world world' := by
  have hmonitor : ∀ probes (warning : List (Event ι)),
      (∀ e ∈ warning, e.isOfInterceptor = false ∧ e.fired? = none) →
      Tells none world.page (warning ++ (world.page.installMonitor probes).2)
        (world.page.installMonitor probes).1 := by
    intro probes warning hwarning
    unfold Page.installMonitor
    split
    all_goals
      refine .nothing rfl fun e he => (List.mem_append.mp he).elim (hwarning e) fun he => ?_
      rw [List.mem_singleton.mp he]
      exact ⟨rfl, rfl⟩
  cases action with
  | installInterceptor =>
      cases h
      refine ⟨world.page.installInterceptor.2, by simp [World.turnPage, World.journaled], ?_⟩
      cases hset : world.page.outstanding with
      | none => simpa [Page.installInterceptor, hset] using .installs hset rfl
      | some set =>
          simp only [Page.installInterceptor, hset]
          refine .nothing rfl fun e he => ?_
          rw [List.mem_singleton.mp he]
          exact ⟨rfl, rfl⟩
  | installMonitor settings =>
      cases settings with
      | error e => cases h; exact .of_same rfl rfl
      | ok settings =>
          cases h
          refine ⟨(world.page.installConfigured settings).2,
            by simp [World.turnPage, World.journaled], hmonitor _ _ fun e he => ?_⟩
          split at he
          · rw [List.mem_singleton.mp he]
            exact ⟨rfl, rfl⟩
          · cases he
  | installProbes probes =>
      cases h
      exact ⟨(world.page.installMonitor probes).2, by simp [World.turnPage, World.journaled],
        hmonitor probes [] fun _ he => absurd he List.not_mem_nil⟩
  | completed =>
      cases h
      refine ⟨world.page.askedEvents, by simp [World.journaled], .nothing rfl fun e he => ?_⟩
      obtain ⟨asked, -, rfl⟩ := List.mem_map.mp he
      exact ⟨rfl, rfl⟩
  | clear _ _ _ | contains _ =>
      simp only [plan] at h
      split at h <;> cases h
      all_goals exact .of_same rfl rfl
  | schedule _ _ _ _ _ | drain _ | throw => cases h
  | _ =>
      cases h
      exact ⟨[], by simp, .nothing rfl fun _ he => absurd he List.not_mem_nil⟩

omit [Identifier ι] in
/-- A call comes back where its answer is put into the log. -/
theorem settle_call?_iff {world : World σ ι} {w : Waiting κ ι} {stack : List (Waiting κ ι × κ)}
    {move : Move σ κ ι (Handler ι)} {request : Request ι (Handler ι)}
    {result : Except TimerError (Answer ι)} :
    w.call? move = some ⟨request, result⟩ ↔ w.watched = true ∧ w.request = request ∧
      (settle P world w stack move).world.log =
        .did w.caller w.action (.answered result) :: world.log := by
  unfold Waiting.call? settle
  cases move.outcome with
  | answer answer =>
      cases hw : w.watched <;> simp [answered_log]
  | invoke firing suspended => simp [World.record]
  | rethrow => simp

/-- Where no request that waits is the interceptor's, the calls that come back
are those that are made on the page and answered. -/
theorem call?_iff {m : Machine σ κ ι} (hunseen : ∀ frame ∈ m.stack, frame.1.watched = false)
    {request : Request ι (Handler ι)} {result : Except TimerError (Answer ι)} :
    m.call? P = some ⟨request, result⟩ ↔
      ∃ caller action rest, m.control = .run caller (action :: rest) ∧
        plan P m.world caller action = .ask request true ∧
        (m.step P).world.log = .did caller action (.answered result) :: m.world.log := by
  obtain ⟨world, control, stack⟩ := m
  constructor
  · intro hcall
    cases control with
    | halt ended => cases hcall
    | unwind =>
        cases stack with
        | nil => cases hcall
        | cons frame stack =>
            have hnone : frame.1.call? (P.resume frame.2 .thrown world.provider) = none :=
              Waiting.call?_of_unwatched (hunseen frame List.mem_cons_self) _
            cases hnone.symm.trans hcall
    | run caller actions =>
        cases actions with
        | nil =>
            cases stack with
            | nil => cases hcall
            | cons frame stack =>
                have hnone : frame.1.call? (P.resume frame.2 .returned world.provider) = none :=
                  Waiting.call?_of_unwatched (hunseen frame List.mem_cons_self) _
                cases hnone.symm.trans hcall
        | cons action rest =>
            refine ⟨caller, action, rest, rfl, ?_⟩
            simp only [call?] at hcall
            simp only [step]
            cases hplan : plan P world caller action with
            | finish result world' => rw [hplan] at hcall; cases hcall
            | throw => rw [hplan] at hcall; cases hcall
            | ask asked watched =>
                rw [hplan] at hcall
                obtain ⟨rfl, rfl, hlog⟩ := settle_call?_iff.mp hcall
                exact ⟨rfl, hlog⟩
  · rintro ⟨caller, action, rest, hcontrol, hplan, hlog⟩
    cases hcontrol
    have hplan : plan P world caller action = .ask request true := hplan
    simp only [step, hplan] at hlog
    simp only [call?, hplan]
    exact settle_call?_iff.mpr ⟨rfl, rfl, hlog⟩

/-- In a step, the provider writes what it has to say of its contact, and then
the interceptor of the call that comes back. -/
theorem writes_step (m : Machine σ κ ι) :
    Writes ((m.contact? P).elim [] fun c => P.events c m.site) (m.call? P) m.world
      (m.step P).world := by
  obtain ⟨world, control, stack⟩ := m
  cases control with
  | halt ended => exact .of_same rfl rfl
  | unwind =>
      cases stack with
      | nil => exact .of_same rfl rfl
      | cons frame stack => exact writes_settle _ _ _ _
  | run caller actions =>
      cases actions with
      | nil =>
          cases stack with
          | nil => exact .of_same rfl rfl
          | cons frame stack => exact writes_settle _ _ _ _
      | cons action rest =>
          simp only [step, call?, contact?]
          cases hplan : plan P world caller action with
          | throw => exact .of_same rfl rfl
          | ask request watched => exact writes_settle _ _ _ _
          | finish result world' => exact (writes_plan hplan).record _

end Machine

/-! ## Whole runs -/

namespace Session

variable {σ κ ι : Type} [DecidableEq ι] [Identifier ι]

/-- The call that comes back through the interceptor in the next step, if one
does. -/
def call? (P : Provider σ κ ι (Handler ι)) (s : Session σ κ ι) : Option (Call ι) :=
  s.machine.call? P

/-- The calls that came back through the interceptor in a number of steps, in
order. -/
def calls (P : Provider σ κ ι (Handler ι)) (s : Session σ κ ι) : (steps : Nat) → List (Call ι)
  | 0 => []
  | n + 1 => s.calls P n ++ ((s.after P n).call? P).toList

variable {P : Provider σ κ ι (Handler ι)}

theorem call?_of_ended {s : Session σ κ ι} (h : s.machine.ended?.isSome) : s.call? P = none := by
  obtain ⟨⟨world, control, stack⟩, coming⟩ := s
  cases control with
  | halt _ => rfl
  | run _ _ => cases h
  | unwind => cases h

theorem writes_step (s : Session σ κ ι) :
    Machine.Writes ((s.contact? P).elim [] fun c => P.events c s.site) (s.call? P) s.machine.world
      (s.step P).machine.world := by
  unfold step
  split
  · exact s.machine.writes_step
  · next hended _ =>
    rw [call?_of_ended (by rw [hended]; rfl), contact?_of_ended (by rw [hended]; rfl)]
    exact .of_same rfl rfl
  · next hended _ =>
    rw [call?_of_ended (by rw [hended]; rfl), contact?_of_ended (by rw [hended]; rfl)]
    exact .of_same rfl rfl

end Session

end PageTimers
