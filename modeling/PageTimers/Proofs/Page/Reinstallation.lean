/-
# To install again changes nothing

A page has two instruments, and each of them is installed once.  Whoever installs
one again, and whenever, finds it there: the timers that are outstanding stay
outstanding, the probes stay the probes, and no call is seen twice.  So the
action might as well not be in the program.  Two runs show it,

    the program as it is
    the program without whatever installs an instrument again

side by side.  Which installation is the first is not written in the program: it
depends on which callbacks run, and when.  So the second run leaves out what it
can as soon as it can (`ClockSession.spareAfter`).  It is the run of the machine
as ever; but once an instrument is installed, all that would install it again is
taken out of what is yet to be done: out of the actions of the harness, out of
the callbacks that run and wait, and out of those that they bring along.

The two are never at the same step for long, for the second has less to do.  What
carries the proof is that it stands still just where the first installs something
again (`ClockSession.Follows.step`), and cannot stand still for ever, because what
is left out is finite (`ClockSession.toDo`).
-/
import PageTimers.Proofs.Page.Monitor
import PageTimers.Proofs.Program.Deletion

namespace PageTimers

/-! ## Records of installations -/

/-- Whether the journal says with it that an instrument is there already, or is
not there when it is asked for. -/
def Event.isOfPresence {ι : Type} : Event ι → Bool
  | .interceptorPresent => true
  | .monitorPresent => true
  | .outstandingProbeSkipped => true
  | _ => false

namespace Entry

variable {ι : Type}

/-- The instrument that an entry says was installed, now or before. -/
def instrument? : Entry ι → Option Instrument
  | did _ _ (.intercepted ..) => some .interceptor
  | did _ _ (.monitored _) => some .monitor
  | _ => none

/-- The entry, with no installations in the callbacks that it shows. -/
def bare : Entry ι → Entry ι
  | started firing now => started (firing.map (Handler.without fun _ => true)) now
  | did caller action result => did caller (action.without fun _ => true) result

end Entry

/-- Whether a log says that the instrument was installed. -/
def logged {ι : Type} (log : List (Entry ι)) (i : Instrument) : Bool :=
  log.any fun entry => entry.instrument?.any (· == i)

theorem logged_cons {ι : Type} (entry : Entry ι) (log : List (Entry ι)) (i : Instrument) :
    logged (entry :: log) i = (entry.instrument?.any (· == i) || logged log i) := List.any_cons

/-- A log, its latest entry first, without the entries that say of an instrument
again that it was installed. -/
def firstInstallations {ι : Type} : List (Entry ι) → List (Entry ι)
  | [] => []
  | entry :: earlier =>
    if entry.instrument?.any (logged earlier) then firstInstallations earlier
    else entry :: firstInstallations earlier

theorem firstInstallations_cons_of_again {ι : Type} {entry : Entry ι} {log : List (Entry ι)}
    (h : entry.instrument?.any (logged log) = true) :
    firstInstallations (entry :: log) = firstInstallations log := if_pos h

theorem firstInstallations_cons_of_not {ι : Type} {entry : Entry ι} {log : List (Entry ι)}
    (h : entry.instrument?.any (logged log) = false) :
    firstInstallations (entry :: log) = entry :: firstInstallations log :=
  if_neg (by simp [h])

/-- The log tells what the page has. -/
def World.Recorded {σ ι : Type} (world : World σ ι) : Prop :=
  ∀ i, world.page.has i = logged world.log i

namespace Page

variable {ι : Type} {page : Page ι}

theorem has_installInterceptor (i : Instrument) :
    page.installInterceptor.1.has i = (page.has i || .interceptor == i) := by
  unfold installInterceptor
  cases i <;> cases hset : page.outstanding <;> simp [has, isIntercepted, hset]

theorem has_installMonitor (probes : List Probe) (i : Instrument) :
    (page.installMonitor probes).1.has i = (page.has i || .monitor == i) := by
  unfold installMonitor
  cases i <;> cases hmonitor : page.monitor <;> simp [has, isIntercepted, hmonitor]

theorem installInterceptor_of_has (page : Page ι) (h : page.has .interceptor = true) :
    page.installInterceptor = (page, [.interceptorPresent]) := by
  obtain ⟨set, hset⟩ := Option.isSome_iff_exists.mp h
  rw [installInterceptor, hset]

theorem installMonitor_of_has (page : Page ι) (h : page.has .monitor = true) (probes : List Probe) :
    page.installMonitor probes = (page, [.monitorPresent]) := by
  obtain ⟨present, hpresent⟩ := Option.isSome_iff_exists.mp h
  rw [installMonitor, hpresent]

theorem has_note {α : Type} [DecidableEq ι] (request : Request ι α)
    (result : Except TimerError (Answer ι)) : (page.note request result).1.has = page.has := by
  funext i
  cases i with
  | interceptor => exact isIntercepted_note request result
  | monitor => exact congrArg Option.isSome (monitor_note request result)

theorem note_map {α β : Type} [DecidableEq ι] (φ : α → β) (request : Request ι α)
    (result : Except TimerError (Answer ι)) :
    page.note (request.map φ) result = page.note request result := by
  cases request <;> rcases result with _ | (_ | _ | _) <;> rfl

end Page

namespace Machine

variable {σ κ ι : Type} [DecidableEq ι] [Identifier ι] {P : Provider σ κ ι (Handler ι)}
  {world world' : World σ ι} {caller : Caller ι} {action : Action ι} {result : Result ι}

theorem instrument?_of_finish (h : plan P world caller action = .finish result world') :
    (Entry.did caller action result).instrument? = action.instrument? := by
  cases action with
  | installMonitor settings => cases settings <;> cases h <;> rfl
  | clear _ _ _ | contains _ =>
      simp only [plan] at h
      split at h <;> cases h <;> rfl
  | schedule _ _ _ _ _ | drain _ | throw => cases h
  | _ => cases h; rfl

theorem has_of_finish (h : plan P world caller action = .finish result world') (i : Instrument) :
    world'.page.has i = (world.page.has i || action.installs (· == i)) := by
  cases action with
  | installInterceptor =>
      cases h
      exact Page.has_installInterceptor i
  | installMonitor settings =>
      cases settings <;> cases h
      · exact (Bool.or_false _).symm
      · exact Page.has_installMonitor _ i
  | installProbes probes =>
      cases h
      exact Page.has_installMonitor probes i
  | clear _ _ _ | contains _ =>
      simp only [plan] at h
      split at h <;> cases h
      all_goals exact (Bool.or_false _).symm
  | schedule _ _ _ _ _ | drain _ | throw => cases h
  | _ =>
      cases h
      cases i <;> exact (Bool.or_false _).symm

omit [Identifier ι] in
theorem settle_logged (world : World σ ι) (w : Waiting κ ι) (stack : List (Waiting κ ι × κ))
    (move : Move σ κ ι (Handler ι)) :
    logged (settle P world w stack move).world.log = logged world.log := by
  cases hmove : move.outcome with
  | answer result =>
      simp only [settle, hmove, answered]
      split <;> exact funext fun i => by simp [logged, World.record, Entry.instrument?]
  | invoke firing suspended => simp [settle, hmove]; rfl
  | rethrow => simp [settle, hmove]

variable {m m' : Machine σ κ ι} {c : Option (Contact ι (Handler ι))}

theorem Course.recorded (h : Course P m c m') (hm : m.world.Recorded) : m'.world.Recorded := by
  cases h with
  | stays | halts | throws => exact hm
  | asked | ended =>
      intro i
      rw [settle_keeps fun _ => Page.has_note _, settle_logged]
      exact hm i
  | did rest stack hplan =>
      intro i
      rw [World.record_page, has_of_finish hplan, hm i, Bool.or_comm, World.record,
        (plan_finish hplan).2, logged_cons, instrument?_of_finish hplan]
      rfl

theorem Course.has_mono (h : Course P m c m') (i : Instrument) (hi : m.world.page.has i = true) :
    m'.world.page.has i = true := by
  cases h with
  | stays | halts | throws => exact hi
  | asked | ended =>
      rw [settle_keeps fun _ => Page.has_note _]
      exact hi
  | did rest stack hplan =>
      rw [World.record_page, has_of_finish hplan, hi]
      rfl

/-- An action that installs nothing leaves the page with what it had. -/
theorem has_step_of_not {m : Machine σ κ ι}
    (h : ∀ action, m.next? = some action → action.instrument? = none) :
    (m.step P).world.page.has = m.world.page.has := by
  have hcourse := m.course_step (P := P)
  generalize m.contact? P = c at hcourse
  generalize m.step P = m' at hcourse ⊢
  cases hcourse with
  | stays | halts | throws => rfl
  | asked | ended => exact settle_keeps fun _ => Page.has_note _
  | @did _ _ _ action _ rest stack hplan =>
      funext i
      rw [World.record_page, has_of_finish hplan, Action.installs, h action rfl]
      exact Bool.or_false _

end Machine

/-! ## Two worlds -/

/-- A second world that stands as the first, but for what was installed again,
and where callbacks install nothing that is there. -/
structure World.Follows (there : Instrument → Bool) (world lean : ClockWorld) : Prop where
  page : lean.page = world.page
  names : lean.names = world.names
  clock : lean.provider = world.provider.without there
  log : lean.log.map Entry.bare = (firstInstallations world.log).map Entry.bare
  journal : lean.journal.filter (fun event => !event.isOfPresence) =
    world.journal.filter (fun event => !event.isOfPresence)

section Follows

variable {there more : Instrument → Bool} {world lean : ClockWorld} {caller : Caller TimerId}
  {action : Action TimerId} {result : Result TimerId}

theorem Entry.bare_did_without :
    (Entry.did caller (action.without there) result).bare = (Entry.did caller action result).bare :=
  congrArg (Entry.did caller · result) (action.without_without fun _ _ => rfl)

theorem Entry.bare_started_without (firing : Firing TimerId (Handler TimerId)) (now : Nat) :
    (Entry.started (firing.map (Handler.without there)) now).bare =
      (Entry.started firing now).bare :=
  congrArg (fun handler => Entry.started ⟨firing.id, handler, firing.count⟩ now)
    (firing.callback.without_without fun _ _ => rfl)

namespace World.Follows

theorem did (h : Follows there world lean)
    (hfirst : (Entry.did caller action result).instrument?.any (logged world.log) = false) :
    Follows there (world.record (.did caller action result))
      (lean.record (.did caller (action.without there) result)) where
  page := h.page
  names := h.names
  clock := h.clock
  log := by
    rw [World.record, World.record, firstInstallations_cons_of_not hfirst, List.map_cons,
      List.map_cons, Entry.bare_did_without, h.log]
  journal := h.journal

theorem started (h : Follows there world lean) (firing : Firing TimerId (Handler TimerId))
    (now : Nat) :
    Follows there (world.record (.started firing now))
      (lean.record (.started (firing.map (Handler.without there)) now)) where
  page := h.page
  names := h.names
  clock := h.clock
  log := by
    rw [World.record, World.record, firstInstallations_cons_of_not rfl, List.map_cons,
      List.map_cons, Entry.bare_started_without, h.log]
  journal := h.journal

theorem journaled (h : Follows there world lean) (events : List (Event TimerId)) :
    Follows there (world.journaled events) (lean.journaled events) where
  page := h.page
  names := h.names
  clock := h.clock
  log := h.log
  journal := by
    rw [World.journaled, World.journaled, List.filter_append, List.filter_append, h.journal]

theorem turnPage (h : Follows there world lean) (change : Page TimerId × List (Event TimerId)) :
    Follows there (world.turnPage change) (lean.turnPage change) := by
  have hturned : Follows there { world with page := change.1 } { lean with page := change.1 } :=
    ⟨rfl, h.names, h.clock, h.log, h.journal⟩
  exact hturned.journaled change.2

/-- What is installed again leaves no trace but in the records. -/
theorem again (h : Follows there world lean) {entry : Entry TimerId} {events : List (Event TimerId)}
    (hentry : entry.instrument?.any (logged world.log) = true)
    (hevents : ∀ event ∈ events, event.isOfPresence = true) :
    Follows there ((world.journaled events).record entry) lean where
  page := h.page
  names := h.names
  clock := h.clock
  log := by
    rw [World.record, World.journaled, firstInstallations_cons_of_again hentry]
    exact h.log
  journal := by
    have hnone : events.reverse.filter (fun event => !event.isOfPresence) = [] :=
      List.filter_eq_nil_iff.mpr fun event hevent => by
        simp [hevents event (List.mem_reverse.mp hevent)]
    rw [World.record, World.journaled, List.filter_append, hnone]
    exact h.journal

theorem bindName (h : Follows there world lean) (action : Action TimerId)
    (result : Except TimerError (Answer TimerId)) :
    Follows there (world.bindName action result) (lean.bindName (action.without there) result) := by
  cases action with
  | schedule route kind delay name handler =>
      cases name with
      | none => exact h
      | some name =>
          match result with
          | .ok (.scheduled id) =>
            exact ⟨h.page, congrArg (·.insert name id) h.names, h.clock, h.log, h.journal⟩
          | .ok (.cleared _) | .ok (.ran _) | .error _ => exact h
  | _ => exact h

theorem resolve (h : Follows there world lean) (caller : Caller TimerId) (target : Target TimerId) :
    lean.resolve caller target = world.resolve caller target := by
  cases target with
  | id _ => rfl
  | self => rfl
  | named name => exact congrArg (·.get? name) h.names

/-- More may be taken out of the callbacks of the second world. -/
theorem of_le (h : Follows there world lean) (hmore : ∀ i, there i = true → more i = true) :
    Follows more world { lean with provider := lean.provider.without more } where
  page := h.page
  names := h.names
  clock := (congrArg (·.without more) h.clock).trans (world.provider.without_without hmore)
  log := h.log
  journal := h.journal

end World.Follows

end Follows

/-! ## Two machines -/

/-- Two plans that come to the same, but for the installations in callbacks. -/
inductive Plan.Beside (there : Instrument → Bool) (caller : Caller TimerId)
    (action : Action TimerId) :
    Plan (VirtualClock (Handler TimerId)) TimerId →
      Plan (VirtualClock (Handler TimerId)) TimerId → Prop
  | finish {result : Result TimerId} {world lean : ClockWorld} :
      World.Follows there (world.record (.did caller action result))
        (lean.record (.did caller (action.without there) result)) →
      Beside there caller action (.finish result world) (.finish result lean)
  | ask (request : Request TimerId (Handler TimerId)) (watched : Bool) :
      Beside there caller action (.ask request watched)
        (.ask (request.map (Handler.without there)) watched)
  | throw : Beside there caller action .throw .throw

namespace ClockMachine

/-- A second machine that is where the first is, with code that installs nothing
that is there. -/
structure Beside (there : Instrument → Bool) (m lean : ClockMachine) : Prop where
  world : World.Follows there m.world lean.world
  control : lean.control = m.control.without there
  stack : lean.stack = m.stack.map (frameWithout there)

variable {there more : Instrument → Bool} (limit : Nat) {world lean : ClockWorld}

/-- The clock's move is taken over on both sides. -/
theorem settle_beside (h : World.Follows there world lean)
    (w : Waiting (VirtualClock.UnderWay (Handler TimerId)) TimerId)
    (stack : List (Waiting (VirtualClock.UnderWay (Handler TimerId)) TimerId ×
      VirtualClock.UnderWay (Handler TimerId)))
    (move : Move (VirtualClock (Handler TimerId)) (VirtualClock.UnderWay (Handler TimerId)) TimerId
      (Handler TimerId)) :
    Beside there (Machine.settle (VirtualClock.provider limit) world w stack move)
      (Machine.settle (VirtualClock.provider limit) lean (w.without there)
        (stack.map (frameWithout there)) (VirtualClock.mapMove (Handler.without there) move)) := by
  obtain ⟨events, state, outcome⟩ := move
  have hprovided : World.Follows there { world with provider := state }
      { lean with provider := state.without there } :=
    ⟨h.page, h.names, rfl, h.log, h.journal⟩
  have hmoved := hprovided.journaled events
  cases outcome with
  | rethrow => exact ⟨hmoved, rfl, rfl⟩
  | invoke firing suspended =>
      refine ⟨hmoved.started firing _, ?_, rfl⟩
      show Control.run (.callback firing.id) ((firing.callback.without there).actions firing.count) =
        _
      rw [Handler.actions_without]
      rfl
  | answer result =>
      -- the interceptor hears of the same answer to the same call
      have hnoted : World.Follows there
          (if w.watched then ({ world with provider := state }.journaled events).turnPage
              (world.page.note w.request result)
            else { world with provider := state }.journaled events)
          (if w.watched then
              ({ lean with provider := state.without there }.journaled events).turnPage
                (lean.page.note (w.request.map (Handler.without there)) result)
            else { lean with provider := state.without there }.journaled events) := by
        have hnote : lean.page.note (w.request.map (Handler.without there)) result =
            world.page.note w.request result := by rw [h.page, Page.note_map]
        rw [hnote]
        split
        · exact hmoved.turnPage _
        · exact hmoved
      exact ⟨(hnoted.bindName w.action result).did rfl, rfl, rfl⟩

theorem plan_beside (caller : Caller TimerId) {action : Action TimerId}
    (h : World.Follows there world lean)
    (hfirst : action.instrument?.any (logged world.log) = false) :
    Plan.Beside there caller action (Machine.plan (VirtualClock.provider limit) world caller action)
      (Machine.plan (VirtualClock.provider limit) lean caller (action.without there)) := by
  have hdone : ∀ {result : Result TimerId} {world' lean' : ClockWorld},
      World.Follows there world' lean' → world'.log = world.log →
      (Entry.did caller action result).instrument? = action.instrument? →
      Plan.Beside there caller action (.finish result world') (.finish result lean') := by
    intro result world' lean' h' hlog hsame
    exact .finish (h'.did (by rw [hsame, hlog]; exact hfirst))
  obtain ⟨provider', page', names', log', journal'⟩ := lean
  obtain rfl : page' = world.page := h.page
  obtain rfl : provider' = world.provider.without there := h.clock
  have hpage : ∀ page : Page TimerId, World.Follows there { world with page }
      ⟨world.provider.without there, page, names', log', journal'⟩ :=
    fun _ => ⟨rfl, h.names, rfl, h.log, h.journal⟩
  cases action with
  | installInterceptor => exact hdone (h.turnPage _) rfl rfl
  | installMonitor settings =>
      cases settings with
      | error e => exact hdone h rfl rfl
      | ok settings => exact hdone (h.turnPage _) rfl rfl
  | installProbes probes => exact hdone (h.turnPage _) rfl rfl
  | schedule route kind delay name handler => exact .ask _ _
  | clear route kind target =>
      simp only [Machine.plan, Action.without, h.resolve caller target]
      cases world.resolve caller target with
      | none => exact hdone h rfl rfl
      | some id => exact .ask _ _
  | drain drain => exact .ask _ _
  | now => exact hdone h rfl rfl
  | pending =>
      have hpending : (world.provider.without there).pending.map QueuedTimer.toPending =
          world.provider.pending.map QueuedTimer.toPending := VirtualClock.toPending_map
      show Plan.Beside there caller .pending _ (.finish (.waiting
        ((world.provider.without there).pending.map QueuedTimer.toPending)) _)
      rw [hpending]
      exact hdone h rfl rfl
  | setGlobal name value => exact hdone (hpage _) rfl rfl
  | getGlobal name => exact hdone h rfl rfl
  | removeGlobal name => exact hdone (hpage _) rfl rfl
  | setFlag name raised => exact hdone (hpage _) rfl rfl
  | completed => exact hdone (h.journaled _) rfl rfl
  | probeNames => exact hdone h rfl rfl
  | outstanding => exact hdone h rfl rfl
  | contains target =>
      simp only [Machine.plan, Action.without, h.resolve caller target]
      cases world.resolve caller target with
      | none => exact hdone h rfl rfl
      | some id => exact hdone h rfl rfl
  | describe =>
      have hdescribe : VirtualClock.describe limit (world.provider.without there) =
          VirtualClock.describe limit world.provider := VirtualClock.describe_map limit
      show Plan.Beside there caller .describe _ (.finish (.views
        (VirtualClock.describe limit (world.provider.without there)) _) _)
      rw [hdescribe]
      exact hdone h rfl rfl
  | throw => exact .throw

/-- Machines that stand beside each other take the same step, unless it installs
something again. -/
theorem Beside.step {m lean : ClockMachine} (h : Beside there m lean)
    (hfirst : ∀ action, m.next? = some action →
      action.instrument?.any (logged m.world.log) = false ∧ action.installs there = false) :
    Beside there (m.step (VirtualClock.provider limit))
      (lean.step (VirtualClock.provider limit)) := by
  obtain ⟨world, control, stack⟩ := m
  obtain ⟨world', control', stack'⟩ := lean
  obtain ⟨hworld, rfl, rfl⟩ := h
  have hresume : ∀ u : VirtualClock.UnderWay (Handler TimerId), ∀ ended,
      VirtualClock.resume (u.map (Handler.without there)) ended world'.provider =
        VirtualClock.mapMove (Handler.without there)
          (VirtualClock.resume u ended world.provider) := by
    intro u ended
    rw [hworld.clock]
    exact VirtualClock.resume_map u ended
  have hask : ∀ request : Request TimerId (Handler TimerId),
      VirtualClock.ask limit (request.map (Handler.without there)) world'.provider =
        VirtualClock.mapMove (Handler.without there)
          (VirtualClock.ask limit request world.provider) := by
    intro request
    rw [hworld.clock]
    exact VirtualClock.ask_map limit request
  cases control with
  | halt _ => exact ⟨hworld, rfl, rfl⟩
  | unwind =>
      cases stack with
      | nil => exact ⟨hworld, rfl, rfl⟩
      | cons frame stack =>
          have hsettle := settle_beside limit hworld frame.1 stack
            (VirtualClock.resume frame.2 .thrown world.provider)
          rw [← hresume] at hsettle
          exact hsettle
  | run caller actions =>
      cases actions with
      | nil =>
          cases stack with
          | nil => exact ⟨hworld, rfl, rfl⟩
          | cons frame stack =>
              have hsettle := settle_beside limit hworld frame.1 stack
                (VirtualClock.resume frame.2 .returned world.provider)
              rw [← hresume] at hsettle
              simp only [Machine.step, Control.without, actionsWithout]
              exact hsettle
      | cons action rest =>
          obtain ⟨hlogged, hkept⟩ := hfirst action rfl
          have hplan := plan_beside limit caller hworld hlogged
          simp only [Machine.step, Control.without, actionsWithout_cons_of_not hkept]
          generalize Machine.plan (VirtualClock.provider limit) world caller
            action = first at hplan ⊢
          generalize Machine.plan (VirtualClock.provider limit) world' caller
            (action.without there) = second at hplan ⊢
          cases hplan with
          | throw => exact ⟨hworld, rfl, rfl⟩
          | finish hfinish => exact ⟨hfinish, rfl, rfl⟩
          | ask request watched =>
              have hsettle := settle_beside limit hworld
                ⟨caller, action, request, watched, rest⟩ stack
                (VirtualClock.ask limit request world.provider)
              rw [← hask] at hsettle
              exact hsettle

/-- More may be taken out of the code of the second machine. -/
theorem Beside.of_le {m lean : ClockMachine} (h : Beside there m lean)
    (hmore : ∀ i, there i = true → more i = true) :
    Beside more m (ClockMachine.without more lean) where
  world := h.world.of_le hmore
  control := (congrArg (·.without more) h.control).trans (m.control.without_without hmore)
  stack := by
    show lean.stack.map (frameWithout more) = _
    rw [h.stack, frameWithout_frameWithout hmore]

theorem Beside.ended? {m lean : ClockMachine} (h : Beside there m lean) :
    lean.ended? = m.ended? := by
  rw [Machine.ended?, Machine.ended?, h.control]
  cases m.control <;> rfl

/-- Both install the same next, if anything. -/
theorem Beside.installing {m lean : ClockMachine} (h : Beside there m lean)
    (hfirst : ∀ action, m.next? = some action → action.installs there = false) :
    lean.next?.bind Action.instrument? = m.next?.bind Action.instrument? := by
  obtain ⟨world, control, stack⟩ := m
  rw [Machine.next?, h.control]
  cases control with
  | halt _ | unwind => rfl
  | run caller actions =>
      cases actions with
      | nil => simp only [Control.without, actionsWithout]; rfl
      | cons action rest =>
          simp only [Control.without, actionsWithout_cons_of_not (hfirst action rfl)]
          exact action.instrument?_without

/-- The second machine installs nothing that is there. -/
theorem Beside.not_installs {m lean : ClockMachine} (h : Beside there m lean)
    {action : Action TimerId} (hnext : lean.next? = some action) :
    action.installs there = false := by
  rw [Machine.next?, h.control] at hnext
  cases hcontrol : m.control with
  | halt _ | unwind => rw [hcontrol] at hnext; cases hnext
  | run caller actions =>
      rw [hcontrol, Control.without] at hnext
      cases hactions : actionsWithout there actions with
      | nil => rw [hactions] at hnext; cases hnext
      | cons first rest =>
          rw [hactions] at hnext
          cases hnext
          exact not_installs_of_mem_actionsWithout (hactions ▸ List.mem_cons_self)

end ClockMachine

/-! ## What is installed again -/

namespace Machine

variable {σ κ ι : Type} [DecidableEq ι] [Identifier ι] {world : World σ ι} {action : Action ι}

/-- What is there already is found, and nothing else happens. -/
theorem plan_of_installs (P : Provider σ κ ι (Handler ι)) (caller : Caller ι)
    (h : action.installs world.page.has = true) :
    ∃ result events, plan P world caller action = .finish result (world.journaled events) ∧
      ∀ event ∈ events, event.isOfPresence = true := by
  cases action with
  | installInterceptor =>
      have hplan := Page.installInterceptor_of_has world.page h
      refine ⟨.intercepted world.page.isIntercepted world.outstandingIds, [.interceptorPresent], ?_,
        by simp [Event.isOfPresence]⟩
      rw [plan, hplan]
      rfl
  | installProbes probes =>
      have hplan := Page.installMonitor_of_has world.page h probes
      refine ⟨.monitored (world.page.probeNames?.getD []), [.monitorPresent], ?_,
        by simp [Event.isOfPresence]⟩
      rw [plan, hplan]
      rfl
  | installMonitor settings =>
      cases settings with
      | error e => cases h
      | ok settings =>
          have hplan := Page.installMonitor_of_has world.page h
            (world.page.configuredProbes settings)
          refine ⟨.monitored (world.page.probeNames?.getD []),
            (if settings.includeOutstanding && !world.page.isIntercepted then
              [.outstandingProbeSkipped] else []) ++ [.monitorPresent], ?_, ?_⟩
          · rw [plan, Page.installConfigured, hplan]
            rfl
          · split <;> simp [Event.isOfPresence]
  | _ => cases h

theorem step_of_installs (P : Provider σ κ ι (Handler ι)) (caller : Caller ι)
    (h : action.installs world.page.has = true) (rest : List (Action ι))
    (stack : List (Waiting κ ι × κ)) :
    ∃ result events,
      step P ⟨world, .run caller (action :: rest), stack⟩ =
        ⟨(world.journaled events).record (.did caller action result), .run caller rest, stack⟩ ∧
      (Entry.did caller action result).instrument? = action.instrument? ∧
      ∀ event ∈ events, event.isOfPresence = true := by
  obtain ⟨result, events, hplan, hevents⟩ := plan_of_installs P caller h
  refine ⟨result, events, ?_, instrument?_of_finish hplan, hevents⟩
  simp only [step, hplan]

end Machine

/-! ## Whole runs -/

namespace ClockSession

/-- The session, with all that would install again what the page has taken out of
what is yet to be done. -/
def spared (s : ClockSession) : ClockSession := ClockSession.without s.machine.world.page.has s

/-- One step.  Where it installs an instrument, all that would install it again is
taken out. -/
def spareStep (limit : Nat) (s : ClockSession) : ClockSession :=
  match s.machine.next?.bind Action.instrument? with
  | none => Session.step (VirtualClock.provider limit) s
  | some _ => spared (Session.step (VirtualClock.provider limit) s)

/-- The session after a number of steps, without what installs an instrument
again. -/
def spareAfter (limit : Nat) (s : ClockSession) : (steps : Nat) → ClockSession
  | 0 => s
  | n + 1 => spareStep limit (spareAfter limit s n)

/-- How much is left to do until the clock is asked again, at most. -/
def toDo (s : ClockSession) : Nat :=
  3 * s.coming.length +
    match s.machine.control with
    | .run _ actions => actions.length + 1
    | .unwind => 0
    | .halt _ => 0

/-- Nothing is left of what the harness does at present, but to come to its end. -/
def Ending (there : Instrument → Bool) (m : ClockMachine) : Prop :=
  m.ended?.isSome ∨ m.stack = [] ∧
    ∃ caller actions, m.control = .run caller actions ∧ actionsWithout there actions = []

/-- A second session that is where the first is, with nothing to do that would
install again what the page has.  Where that is all the harness does, the second
session has not begun with it. -/
structure Follows (s lean : ClockSession) : Prop where
  recorded : s.machine.world.Recorded
  world : World.Follows s.machine.world.page.has s.machine.world lean.machine.world
  place : ClockMachine.Beside s.machine.world.page.has s.machine lean.machine ∨
    Ending s.machine.world.page.has s.machine ∧ lean.machine.ended?.isSome
  coming : lean.coming = actionsWithout s.machine.world.page.has s.coming

variable {limit : Nat} {s lean : ClockSession}

theorem Follows.lean_ended (h : Follows s lean) (hended : s.machine.ended?.isSome) :
    lean.machine.ended?.isSome := by
  rcases h.place with hbeside | ⟨-, hlean⟩
  · rw [hbeside.ended?]
    exact hended
  · exact hlean

theorem next?_of_ended {m : ClockMachine} (hended : m.ended?.isSome) : m.next? = none := by
  obtain ⟨world, control, stack⟩ := m
  cases control with
  | halt _ => rfl
  | run _ _ | unwind => cases hended

/-- Between two actions of the harness. -/
theorem Follows.step_of_ended (h : Follows s lean) (hended : s.machine.ended?.isSome) :
    Follows (Session.step (VirtualClock.provider limit) s) lean ∧
        toDo (Session.step (VirtualClock.provider limit) s) < toDo s ∨
      Follows (Session.step (VirtualClock.provider limit) s) (spareStep limit lean) := by
  have hlean := h.lean_ended hended
  have hcoming := h.coming
  rw [show spareStep limit lean = Session.step (VirtualClock.provider limit) lean by
    rw [spareStep, next?_of_ended hlean]; rfl]
  cases hs : s.coming with
  | nil =>
      rw [hs, actionsWithout] at hcoming
      rw [Session.step_of_over hended hs, Session.step_of_over hlean hcoming]
      exact Or.inr h
  | cons action rest =>
      rw [hs] at hcoming
      rw [Session.step_of_next hended hs]
      cases hinstalls : action.installs s.machine.world.page.has with
      | true =>
          rw [actionsWithout_cons_of_installs hinstalls] at hcoming
          have hnothing : actionsWithout s.machine.world.page.has [action] = [] := by
            rw [actionsWithout_cons_of_installs hinstalls, actionsWithout]
          refine Or.inl ⟨⟨h.recorded, h.world,
            Or.inr ⟨Or.inr ⟨rfl, .harness, [action], rfl, hnothing⟩, hlean⟩, hcoming⟩, ?_⟩
          simp only [toDo, hs, Machine.load, List.length_cons, List.length_nil]
          omega
      | false =>
          rw [actionsWithout_cons_of_not hinstalls] at hcoming
          have honly : actionsWithout s.machine.world.page.has [action] =
              [action.without s.machine.world.page.has] := by
            rw [actionsWithout_cons_of_not hinstalls, actionsWithout]
          rw [Session.step_of_next hlean hcoming]
          exact Or.inr ⟨h.recorded, h.world,
            Or.inl ⟨h.world, congrArg (Control.run .harness) honly.symm, rfl⟩, rfl⟩

/-- Where something is installed again, the second session stands still. -/
theorem Follows.step_of_installs (h : Follows s lean) {caller : Caller TimerId}
    {action : Action TimerId} {rest : List (Action TimerId)}
    (hcontrol : s.machine.control = .run caller (action :: rest))
    (hinstalls : action.installs s.machine.world.page.has = true) :
    Follows (Session.step (VirtualClock.provider limit) s) lean ∧
      toDo (Session.step (VirtualClock.provider limit) s) < toDo s := by
  obtain ⟨⟨world, control, stack⟩, coming⟩ := s
  obtain rfl : control = _ := hcontrol
  obtain ⟨result, events, hstep, hentry, hevents⟩ :=
    Machine.step_of_installs (VirtualClock.provider limit) caller hinstalls rest stack
  have hrecorded := (Machine.course_step (P := VirtualClock.provider limit)
    ⟨world, .run caller (action :: rest), stack⟩).recorded h.recorded
  have hworld : World.Follows world.page.has
      ((world.journaled events).record (.did caller action result)) lean.machine.world := by
    refine h.world.again ?_ hevents
    rw [hentry, ← show world.page.has = logged world.log from funext h.recorded]
    exact hinstalls
  have hrest :
      actionsWithout world.page.has (action :: rest) = actionsWithout world.page.has rest :=
    actionsWithout_cons_of_installs hinstalls
  rw [hstep] at hrecorded
  rw [Session.step_of_running rfl, hstep]
  refine ⟨⟨hrecorded, hworld, ?_, h.coming⟩, ?_⟩
  · rcases h.place with hbeside | ⟨hending, hlean⟩
    · exact Or.inl ⟨hworld, hbeside.control.trans (congrArg (Control.run caller) hrest),
        hbeside.stack⟩
    · rcases hending with hended | ⟨hstack, _, _, hrun, hnothing⟩
      · cases hended
      · cases hrun
        exact Or.inr ⟨Or.inr ⟨hstack, caller, rest, rfl, hrest.symm.trans hnothing⟩, hlean⟩
  · simp only [toDo, List.length_cons]
    omega

/-- Where nothing is installed again, both take the same step. -/
theorem Follows.step_of_beside (h : Follows s lean) (hended : s.machine.ended? = none)
    (hbeside : ClockMachine.Beside s.machine.world.page.has s.machine lean.machine)
    (hfirst : ∀ action, s.machine.next? = some action →
      action.installs s.machine.world.page.has = false) :
    Follows (Session.step (VirtualClock.provider limit) s) (spareStep limit lean) := by
  have hlean : lean.machine.ended? = none := hbeside.ended?.trans hended
  have hcourse := s.machine.course_step (P := VirtualClock.provider limit)
  have hlogged : s.machine.world.page.has = logged s.machine.world.log := funext h.recorded
  have hstep := hbeside.step limit fun action hnext =>
    ⟨hlogged ▸ hfirst action hnext, hfirst action hnext⟩
  have hmono := fun i => hcourse.has_mono i
  rw [Session.step_of_running hended, spareStep, hbeside.installing hfirst,
    Session.step_of_running hlean]
  cases hnext : s.machine.next?.bind Action.instrument? with
  | none =>
      have hsame := Machine.has_step_of_not (P := VirtualClock.provider limit)
        fun action haction => Option.bind_eq_none_iff.mp hnext action haction
      refine ⟨hcourse.recorded h.recorded, ?_, Or.inl ?_, ?_⟩
      · exact hsame ▸ hstep.world
      · exact hsame ▸ hstep
      · exact hsame ▸ h.coming
  | some _ =>
      have hmore := hstep.of_le hmono
      have hspared : spared ⟨lean.machine.step (VirtualClock.provider limit), lean.coming⟩ =
          ClockSession.without (s.machine.step (VirtualClock.provider limit)).world.page.has
            ⟨lean.machine.step (VirtualClock.provider limit), lean.coming⟩ := by
        rw [spared, hstep.world.page]
      show Follows _ (spared _)
      rw [hspared]
      refine ⟨hcourse.recorded h.recorded, hmore.world, Or.inl hmore, ?_⟩
      show actionsWithout _ lean.coming = _
      rw [h.coming, actionsWithout_actionsWithout hmono]

/-- Where the harness is about to come to an end without having done anything
more, the second session waits for it. -/
theorem Follows.step_of_ending (h : Follows s lean) (hended : s.machine.ended? = none)
    (hending : Ending s.machine.world.page.has s.machine) (hlean : lean.machine.ended?.isSome) :
    Follows (Session.step (VirtualClock.provider limit) s) lean ∧
      toDo (Session.step (VirtualClock.provider limit) s) < toDo s := by
  rcases hending with hover | ⟨hstack, caller, actions, hcontrol, hnothing⟩
  · rw [hended] at hover
    cases hover
  · cases actions with
    | nil =>
        rw [Session.step_of_running hended]
        obtain ⟨⟨world, control, stack⟩, coming⟩ := s
        obtain rfl : control = _ := hcontrol
        obtain rfl : stack = [] := hstack
        refine ⟨⟨h.recorded, h.world, Or.inr ⟨Or.inl rfl, hlean⟩, h.coming⟩, ?_⟩
        simp only [toDo, Machine.step, List.length_nil]
        omega
    | cons action rest =>
        refine h.step_of_installs hcontrol ?_
        cases hinstalls : action.installs s.machine.world.page.has with
        | true => rfl
        | false =>
            rw [actionsWithout_cons_of_not hinstalls] at hnothing
            cases hnothing

/-- The second session takes the step that the first takes, or stands still. -/
theorem Follows.step (h : Follows s lean) :
    Follows (Session.step (VirtualClock.provider limit) s) lean ∧
        toDo (Session.step (VirtualClock.provider limit) s) < toDo s ∨
      Follows (Session.step (VirtualClock.provider limit) s) (spareStep limit lean) := by
  cases hended : s.machine.ended? with
  | some ended => exact h.step_of_ended (by rw [hended]; rfl)
  | none =>
      rcases h.place with hbeside | ⟨hending, hlean⟩
      · by_cases hagain : ∃ action, s.machine.next? = some action ∧
            action.installs s.machine.world.page.has = true
        · obtain ⟨action, hnext, hinstalls⟩ := hagain
          obtain ⟨caller, rest, hcontrol⟩ := Machine.control_of_next? hnext
          exact Or.inl (h.step_of_installs hcontrol hinstalls)
        · refine Or.inr (h.step_of_beside hended hbeside fun action hnext => ?_)
          exact Bool.eq_false_iff.mpr fun hinstalls => hagain ⟨action, hnext, hinstalls⟩
      · exact Or.inl (h.step_of_ending hended hending hlean)

theorem follows_fresh (globals : Globals) (actions : List (Action TimerId)) :
    Follows (fresh globals actions) (fresh globals actions) := by
  have hbare : ∀ i, (fresh globals actions).machine.world.page.has i = false := by
    intro i
    cases i <;> rfl
  have hworld : World.Follows (fresh globals actions).machine.world.page.has
      (fresh globals actions).machine.world (fresh globals actions).machine.world :=
    ⟨rfl, rfl, rfl, rfl, rfl⟩
  refine ⟨fun i => hbare i, hworld, Or.inl ⟨hworld, ?_, rfl⟩, (actionsWithout_of_bare hbare _).symm⟩
  exact congrArg (Control.run .harness) (actionsWithout_of_bare hbare []).symm

end ClockSession

/-! ## At two paces -/

/-- Two runs that stand in a relation, where the second takes a step or waits, and
waits only as long as something becomes less: the second keeps pace with the
first, and goes on. -/
theorem exists_pace {R : Nat → Nat → Prop} (left : Nat → Nat) (hstart : R 0 0)
    (hstep : ∀ n k, R n k → R (n + 1) k ∧ left (n + 1) < left n ∨ R (n + 1) (k + 1)) :
    ∃ pace : Nat → Nat, pace 0 = 0 ∧ (∀ n, pace (n + 1) = pace n ∨ pace (n + 1) = pace n + 1) ∧
      (∀ k, ∃ n, pace n = k) ∧ ∀ n, R n (pace n) := by
  classical
  let next : Nat → Nat → Nat := fun n k => if R (n + 1) k ∧ left (n + 1) < left n then k else k + 1
  let pace : Nat → Nat := fun n => Nat.rec 0 next n
  have hpace : ∀ n, R n (pace n) := by
    intro n
    induction n with
    | zero => exact hstart
    | succ n ih =>
        show R (n + 1) (next n (pace n))
        by_cases hwait : R (n + 1) (pace n) ∧ left (n + 1) < left n
        · rw [show next n (pace n) = pace n from if_pos hwait]
          exact hwait.1
        · rw [show next n (pace n) = pace n + 1 from if_neg hwait]
          exact (hstep n (pace n) ih).resolve_left hwait
  have hnext : ∀ n, pace (n + 1) = pace n ∧ left (n + 1) < left n ∨ pace (n + 1) = pace n + 1 := by
    intro n
    by_cases hwait : R (n + 1) (pace n) ∧ left (n + 1) < left n
    · exact Or.inl ⟨if_pos hwait, hwait.2⟩
    · exact Or.inr (if_neg hwait)
  -- it waits at most as often as what is left tells
  have hgoes : ∀ d n, left n ≤ d → ∃ m, pace m = pace n + 1 := by
    intro d
    induction d with
    | zero =>
        intro n hd
        exact ⟨n + 1, (hnext n).resolve_left fun h => by omega⟩
    | succ d ih =>
        intro n hd
        rcases hnext n with ⟨hsame, hless⟩ | hone
        · obtain ⟨m, hm⟩ := ih (n + 1) (by omega)
          exact ⟨m, by rw [hm, hsame]⟩
        · exact ⟨n + 1, hone⟩
  refine ⟨pace, rfl, fun n => (hnext n).imp_left And.left, fun k => ?_, hpace⟩
  induction k with
  | zero => exact ⟨0, rfl⟩
  | succ k ih =>
      obtain ⟨n, rfl⟩ := ih
      exact hgoes (left n) n (Nat.le_refl _)

/-! ## The two runs -/

/-- Two worlds that only what was installed again tells apart, and what callbacks
would install again.  The pages are the same: what is outstanding, which probes
there are, and whether they say that the page is complete. -/
structure World.SameButAgain (world lean : ClockWorld) : Prop where
  /-- The same was done with the same results, and the same callbacks were started
  at the same times, in the same order. -/
  log : lean.log.map Entry.bare = (firstInstallations world.log).map Entry.bare
  /-- No call was noted twice. -/
  journal : lean.journal.filter (fun event => !event.isOfPresence) =
    world.journal.filter (fun event => !event.isOfPresence)
  page : lean.page = world.page
  names : lean.names = world.names
  now : lean.provider.now = world.provider.now
  pending : lean.provider.pending.map QueuedTimer.toPending =
    world.provider.pending.map QueuedTimer.toPending

theorem World.Follows.sameButAgain {there : Instrument → Bool} {world lean : ClockWorld}
    (h : Follows there world lean) : world.SameButAgain lean where
  log := h.log
  journal := h.journal
  page := h.page
  names := h.names
  now := by rw [h.clock]; rfl
  pending := by rw [h.clock]; exact VirtualClock.toPending_map

namespace ClockSession

/-- In the second run nothing is installed again. -/
theorem Follows.not_installs {s lean : ClockSession} (h : Follows s lean)
    {action : Action TimerId} (hnext : lean.machine.next? = some action) :
    action.installs lean.machine.world.page.has = false := by
  rcases h.place with hbeside | ⟨-, hlean⟩
  · rw [h.world.page]
    exact hbeside.not_installs hnext
  · rw [next?_of_ended hlean] at hnext
    cases hnext

/-- **To install again changes nothing.**  Run any program on a page with a
virtual clock, and run it without whatever installs an instrument again: once an
instrument is installed, such actions are taken out of all that is yet to be done,
by the harness and in callbacks.  Then at every step of the first run the second is
at a step of its own, reaching each of them in order, where the worlds are the
same but for what was installed again; and what the second run does is installed
for the first time.  An action that installs an instrument again changes nothing
in the first run but its records. -/
theorem installed_once (limit : Nat) (globals : Globals) (actions : List (Action TimerId)) :
    let full := (fresh globals actions).after limit
    let lean := (fresh globals actions).spareAfter limit
    (∃ pace : Nat → Nat, pace 0 = 0 ∧ (∀ n, pace (n + 1) = pace n ∨ pace (n + 1) = pace n + 1) ∧
      (∀ k, ∃ n, pace n = k) ∧
      ∀ n, (full n).machine.world.SameButAgain (lean (pace n)).machine.world) ∧
    (∀ k action, (lean k).machine.next? = some action →
      action.installs (lean k).machine.world.page.has = false) ∧
    ∀ n action, (full n).machine.next? = some action →
      action.installs (full n).machine.world.page.has = true →
      ∃ caller rest result events,
        (full n).machine.control = .run caller (action :: rest) ∧
        full (n + 1) =
          ⟨⟨((full n).machine.world.journaled events).record (.did caller action result),
            .run caller rest, (full n).machine.stack⟩, (full n).coming⟩ := by
  intro full lean
  obtain ⟨pace, hzero, hone, honto, hfollows⟩ := exists_pace (fun n => toDo (full n))
    (R := fun n k => Follows (full n) (lean k)) (follows_fresh globals actions) fun n k h => h.step
  refine ⟨⟨pace, hzero, hone, honto, fun n => (hfollows n).world.sameButAgain⟩, ?_, ?_⟩
  · intro k action hnext
    obtain ⟨n, rfl⟩ := honto k
    exact (hfollows n).not_installs hnext
  · intro n action hnext hinstalls
    obtain ⟨caller, rest, hcontrol⟩ := Machine.control_of_next? hnext
    obtain ⟨result, events, hstep, -, -⟩ := Machine.step_of_installs
      (VirtualClock.provider limit) caller hinstalls rest (full n).machine.stack
    refine ⟨caller, rest, result, events, hcontrol, ?_⟩
    have hended : (full n).machine.ended? = none := by
      rw [Machine.ended?, hcontrol]
    rw [← hstep, ← hcontrol]
    exact Session.step_of_running hended

end ClockSession

end PageTimers
