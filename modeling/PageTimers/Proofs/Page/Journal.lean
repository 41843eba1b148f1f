/-
# The journal tells the truth

Whoever has the journal of a run, and nothing else, can keep the set of
outstanding timers along with the interceptor:

    interceptorInstalled     the set is there, and empty
    scheduled id             `id` is put into it
    cancelled id             `id` is taken out of it
    everything else          leaves it alone

`Event.replay` is this reading; it does not look at the sizes and answers that
the events carry, so that those can be checked against it.

That a journal is `Faithful` is an invariant of what a step can write
(`Faithful.tells`), and so it holds over any provider that keeps the
interceptor's events out of its own.  Of the virtual clock it is shown besides
that the starts of callbacks in the journal are those that happened.
-/
import PageTimers.Proofs.Clock.History
import PageTimers.Proofs.Page.Exactness

namespace PageTimers

/-! ## Reading a journal -/

/-- A timer call as its event tells of it: its kind, its timer and, where it
clears, the answer. -/
structure Notice (ι : Type) where
  kind : TimerKind
  id : ι
  cancelled : Option Bool

/-- What the event of a call tells, if the call came back well. -/
def Call.notice? {ι : Type} : Call ι → Option (Notice ι)
  | ⟨.schedule kind _ _, .ok (.scheduled id)⟩ => some ⟨kind, id, none⟩
  | ⟨.clear kind id, .ok (.cleared found)⟩ => some ⟨kind, id, some found⟩
  | _ => none

namespace Event

variable {ι : Type}

def notice? : Event ι → Option (Notice ι)
  | scheduled id kind _ => some ⟨kind, id, none⟩
  | cancelled id kind answer _ => some ⟨kind, id, some answer⟩
  | _ => none

/-- How many timers are outstanding, where an event says it. -/
def count? : Event ι → Option Nat
  | scheduled _ _ outstanding => some outstanding
  | cancelled _ _ _ outstanding => some outstanding
  | _ => none

variable [DecidableEq ι]

/-- What a reader takes to be outstanding after one event more. -/
def replay (set : Option (Finset ι)) : Event ι → Option (Finset ι)
  | interceptorInstalled => some ∅
  | scheduled id _ _ => set.map (insert id)
  | cancelled id _ _ _ => set.map (·.erase id)
  | _ => set

/-- What a journal, read in order, says to be outstanding. -/
def replayAll (journal : List (Event ι)) : Option (Finset ι) := journal.foldl replay none

theorem replayAll_snoc (journal : List (Event ι)) (e : Event ι) :
    replayAll (journal ++ [e]) = replay (replayAll journal) e :=
  List.foldl_append

section Aside

variable {e : Event ι} (h : e.isOfInterceptor = false)
include h

theorem replay_aside (set : Option (Finset ι)) : replay set e = set := by
  cases e with
  | interceptorInstalled | scheduled | cancelled => cases h
  | _ => rfl

omit [DecidableEq ι]

theorem notice?_aside : e.notice? = none := by
  cases e with
  | interceptorInstalled | scheduled | cancelled => cases h
  | _ => rfl

theorem count?_aside : e.count? = none := by
  cases e with
  | interceptorInstalled | scheduled | cancelled => cases h
  | _ => rfl

end Aside

end Event

/-- At trace level all is recorded. -/
theorem journalFrom_trace {ι : Type} (events : List (Event ι)) :
    journalFrom (some .trace) events = events :=
  List.filter_eq_self.mpr fun _ _ => decide_eq_true (Nat.zero_le _)

/-! ## Journals that tell the truth -/

section Faithful

variable {ι : Type} [DecidableEq ι] {journal : List (Event ι)} {page page' : Page ι}
  {calls : List (Call ι)}

/-- The journal, in order, agrees with the set that the page keeps and with the
calls that came back through the interceptor; and each size in it is the size
of what it says to be outstanding at that point. -/
structure Faithful (journal : List (Event ι)) (page : Page ι) (calls : List (Call ι)) : Prop where
  replays : Event.replayAll journal = page.outstanding.map (·.ids.toFinset)
  counts : ∀ before e after, journal = before ++ e :: after → ∀ count, e.count? = some count →
    (Event.replayAll (before ++ [e])).map Finset.card = some count
  notices : journal.filterMap Event.notice? = calls.filterMap Call.notice?

namespace Faithful

theorem start (globals : Globals) : Faithful [] (.attach globals : Page ι) [] where
  replays := rfl
  counts _ _ _ h :=
    absurd h.symm (List.append_ne_nil_of_right_ne_nil _ (List.cons_ne_nil _ _))
  notices := rfl

/-- One event more, and the call that it tells of if it tells of one. -/
theorem snoc (h : Faithful journal page calls) {e : Event ι} {call : Option (Call ι)}
    (hreplay : Event.replay (page.outstanding.map (·.ids.toFinset)) e =
      page'.outstanding.map (·.ids.toFinset))
    (hcount : ∀ count, e.count? = some count → page'.outstanding.map (·.size) = some count)
    (hnotice : e.notice? = call.bind Call.notice?) :
    Faithful (journal ++ [e]) page' (calls ++ call.toList) where
  replays := by rw [Event.replayAll_snoc, h.replays, hreplay]
  counts := by
    intro before e' after heq count hcount'
    rcases snoc_eq_append_cons heq with ⟨-, rfl, rfl⟩ | ⟨rest, -, hbefore⟩
    · rw [Event.replayAll_snoc, h.replays, hreplay, ← hcount count hcount', Option.map_map]
      congr 1
      funext set
      exact List.toFinset_card_of_nodup set.nodup
    · exact h.counts before e' rest hbefore count hcount'
  notices := by
    rw [List.filterMap_append, List.filterMap_append, h.notices]
    congr 1
    cases call with
    | none => simp [hnotice]
    | some call => simp [List.filterMap_cons, hnotice]

/-- Events that are not the interceptor's tell nothing of the set. -/
theorem aside (h : Faithful journal page calls) {events : List (Event ι)}
    (hevents : ∀ e ∈ events, e.isOfInterceptor = false)
    (hsame : page'.outstanding = page.outstanding) : Faithful (journal ++ events) page' calls := by
  induction events using List.reverseRecOn with
  | nil =>
      rw [List.append_nil]
      exact ⟨hsame ▸ h.replays, h.counts, h.notices⟩
  | append_singleton events e ih =>
      have he : e.isOfInterceptor = false := hevents e (by simp)
      have hbefore := ih fun e he => hevents e (List.mem_append_left _ he)
      have hcount : ∀ count, e.count? = some count →
          page'.outstanding.map (·.size) = some count := by
        rw [Event.count?_aside he]
        exact fun _ hcount => by cases hcount
      have hsnoc : Faithful (journal ++ events ++ [e]) page' (calls ++ Option.toList none) :=
        hbefore.snoc (Event.replay_aside he _) hcount (Event.notice?_aside he)
      rwa [List.append_assoc, Option.toList_none, List.append_nil] at hsnoc

end Faithful

end Faithful

/-! ## What keeps it so -/

/-- Its events are none of the interceptor's. -/
def Provider.Discreet {σ κ ι α : Type} (P : Provider σ κ ι α) : Prop :=
  ∀ c site, ∀ e ∈ P.events c site, e.isOfInterceptor = false

namespace Outstanding

variable {ι : Type} [DecidableEq ι] (set : Outstanding ι) (id : ι)

theorem toFinset_insert : (set.insert id).ids.toFinset = Insert.insert id set.ids.toFinset := by
  ext other
  simp

theorem toFinset_erase : (set.erase id).ids.toFinset = set.ids.toFinset.erase id := by
  ext other
  simp

end Outstanding

namespace Page

variable {ι : Type} [DecidableEq ι] {page : Page ι}

/-- What the interceptor makes of a call: nothing, where the call failed; else
it tells of the call and takes it over. -/
theorem note_cases {set : Outstanding ι} (hset : page.outstanding = some set) (call : Call ι) :
    (call.notice? = none ∧ page.note call.request call.result = (page, [])) ∨
    (∃ kind id, call.notice? = some ⟨kind, id, none⟩ ∧ page.note call.request call.result =
      ({ page with outstanding := some (set.insert id) },
        [.scheduled id kind (set.insert id).size])) ∨
    ∃ kind id found, call.notice? = some ⟨kind, id, some found⟩ ∧
      page.note call.request call.result =
        ({ page with outstanding := some (set.erase id) },
          [.cancelled id kind found (set.erase id).size]) := by
  obtain ⟨request, result⟩ := call
  cases result with
  | error e => cases request <;> exact Or.inl ⟨rfl, rfl⟩
  | ok answer =>
      cases request with
      | schedule kind callback delay =>
          cases answer with
          | scheduled id =>
              exact Or.inr (Or.inl ⟨kind, id, rfl, by simp [note, noteScheduled, hset]⟩)
          | cleared | ran => exact Or.inl ⟨rfl, rfl⟩
      | clear kind id =>
          cases answer with
          | cleared found =>
              exact Or.inr (Or.inr ⟨kind, id, found, rfl, by simp [note, noteCleared, hset]⟩)
          | scheduled | ran => exact Or.inl ⟨rfl, rfl⟩
      | drain drain => exact Or.inl ⟨rfl, rfl⟩

end Page

theorem Faithful.tells {ι : Type} [DecidableEq ι] {journal events : List (Event ι)}
    {page page' : Page ι} {calls : List (Call ι)} {call : Option (Call ι)}
    (h : Faithful journal page calls) (htells : Machine.Tells call page events page')
    (hnone : page.outstanding = none → call = none) :
    Faithful (journal ++ events) page' (calls ++ call.toList) := by
  cases htells with
  | installs hbefore hafter =>
      refine h.snoc ?_ (fun _ hcount => by cases hcount) rfl
      rw [hafter]
      rfl
  | nothing hsame hevents =>
      rw [Option.toList_none, List.append_nil]
      exact h.aside (fun e he => (hevents e he).1) hsame
  | call _ call =>
      obtain ⟨set, hset⟩ : ∃ set, page.outstanding = some set := by
        cases hset : page.outstanding with
        | none => cases hnone hset
        | some set => exact ⟨set, rfl⟩
      rcases Page.note_cases hset call with ⟨hnotice, hnote⟩ | ⟨kind, id, hnotice, hnote⟩ |
        ⟨kind, id, found, hnotice, hnote⟩ <;> rw [hnote]
      · rw [List.append_nil]
        refine ⟨h.replays, h.counts, ?_⟩
        rw [List.filterMap_append, h.notices, Option.toList_some, List.filterMap_cons_none hnotice]
        exact (List.append_nil _).symm
      · refine h.snoc ?_ (fun _ hcount => hcount) hnotice.symm
        rw [hset, Option.map_some, Option.map_some, Outstanding.toFinset_insert]
        rfl
      · refine h.snoc ?_ (fun _ hcount => hcount) hnotice.symm
        rw [hset, Option.map_some, Option.map_some, Outstanding.toFinset_erase]
        rfl

/-! ## Whole runs -/

namespace Session

variable {σ κ ι : Type} [DecidableEq ι] [Identifier ι] {P : Provider σ κ ι (Handler ι)}

/-- Over a discreet provider the journal tells the truth throughout. -/
theorem faithful_after (hP : P.Discreet) (state : σ) (globals : Globals) (actions : List (Action ι))
    (n : Nat) :
    let s := (start (World.start state globals) actions : Session σ κ ι)
    let world := (s.after P n).machine.world
    Faithful world.journal.reverse world.page (s.calls P n) := by
  intro s
  induction n with
  | zero => exact .start globals
  | succ n ih =>
      obtain ⟨told, hjournal, htells⟩ := writes_step (P := P) (s.after P n)
      have hown : ∀ e ∈ ((s.after P n).contact? P).elim [] fun c => P.events c (s.after P n).site,
          e.isOfInterceptor = false := by
        cases (s.after P n).contact? P with
        | none => exact fun _ he => absurd he List.not_mem_nil
        | some c => exact hP c _
      have hnone : (s.after P n).machine.world.page.outstanding = none →
          (s.after P n).call? P = none :=
        Machine.call?_of_unwatched (unwatched_after _ _ n)
      have hafter := (ih.aside hown rfl).tells htells hnone
      rw [← hjournal] at hafter
      exact hafter

end Session

/-! ## On the virtual clock -/

namespace VirtualClock

variable {α : Type} {limit : Nat}

/-- The clock journals the turns of its drains, and nothing else. -/
theorem events_cases (c : Contact TimerId α) (p : Place α) :
    ((provider limit).events c p = [] ∧ firings (happenings limit c p) = []) ∨
    ∃ goal left ran clock, (provider limit).events c p = (proceed goal left ran clock).events ∧
      firings (happenings limit c p) = firings (drainHappenings (proceed goal left ran clock)) := by
  obtain ⟨clock, us⟩ := p
  cases c with
  | ask request =>
      cases request with
      | schedule | clear => exact Or.inl ⟨rfl, rfl⟩
      | drain drain =>
          rcases ask_drain_cases limit drain clock with ⟨e, hask⟩ | ⟨goal, -, hask⟩
          · refine Or.inl ⟨congrArg Move.events hask, ?_⟩
            rw [happenings, hask]
            rfl
          · refine Or.inr ⟨goal, _, _, clock, congrArg Move.events hask, ?_⟩
            rw [happenings, hask]
  | ended ended =>
      cases us with
      | nil => cases ended <;> exact Or.inl ⟨rfl, rfl⟩
      | cons u us =>
          cases ended with
          | returned => exact Or.inr ⟨u.goal, u.left, u.ran, clock.finish u.timer, rfl, rfl⟩
          | thrown => exact Or.inl ⟨rfl, rfl⟩

/-- Of the starts of callbacks it journals each, with what it shows then. -/
theorem fired_events (c : Contact TimerId α) (p : Place α) :
    ((provider limit).events c p).filterMap Event.fired? =
      (firings (happenings limit c p)).map fun s => (s.1.id, s.1.kind, s.2) := by
  rcases events_cases c p with ⟨hevents, hfirings⟩ | ⟨goal, left, ran, clock, hevents, hfirings⟩ <;>
    rw [hevents, hfirings]
  · rfl
  · rcases proceed_cases goal left ran clock with
      ⟨-, hmove⟩ | ⟨-, hmove⟩ | ⟨timer, left', -, -, hmove⟩ <;> rw [hmove]
    · cases goal <;> rfl
    · rfl
    · rfl

theorem discreet (limit : Nat) :
    Provider.Discreet (provider limit : Provider (VirtualClock α) (UnderWay α) TimerId α) := by
  intro c p e he
  rcases events_cases c p with ⟨hevents, -⟩ | ⟨goal, left, ran, clock, hevents, -⟩ <;>
    rw [hevents] at he
  · cases he
  · rcases proceed_cases goal left ran clock with
      ⟨-, hmove⟩ | ⟨-, hmove⟩ | ⟨timer, left', -, -, hmove⟩ <;> rw [hmove] at he
    · cases goal with
      | advance delta target => rw [List.mem_singleton.mp he]; rfl
      | runDue | flush => cases he
    · cases he
    · rw [List.mem_singleton.mp he]
      rfl

end VirtualClock

namespace ClockMachine

variable {limit : Nat} {m m' : ClockMachine} {c : Option (Contact TimerId (Handler TimerId))}

/-- The interceptor does not see the requests that wait: they are drains. -/
def Unseen (m : ClockMachine) : Prop := ∀ frame ∈ m.stack, frame.1.watched = false

theorem Unseen.course (h : m.Unseen)
    (hcourse : Machine.Course (VirtualClock.provider limit) m c m') : m'.Unseen := by
  cases hcourse with
  | stays | throws | did => exact h
  | halts => exact fun _ hframe => absurd hframe List.not_mem_nil
  | @asked world caller action request watched rest stack hplan =>
      intro frame hframe
      rcases Machine.mem_settle_stack hframe with hframe | ⟨hw, firing, hinvoke⟩
      · exact h frame hframe
      · rw [hw]
        rcases Machine.plan_ask hplan with ⟨_, _, _, _, _, _, rfl, _⟩ | ⟨_, _, _, _, _, _, rfl, _⟩ |
          ⟨_, _, _, hwatched⟩
        · cases hinvoke
        · cases hinvoke
        · exact hwatched
  | ended world control frame stack ended =>
      intro other hother
      rcases Machine.mem_settle_stack hother with hother | ⟨hw, -⟩
      · exact h other (List.mem_cons_of_mem _ hother)
      · rw [hw]
        exact h frame List.mem_cons_self

theorem Unseen.load (world : ClockWorld) (program : List (Action TimerId)) :
    Unseen (.load world program) :=
  fun _ hframe => absurd hframe List.not_mem_nil

end ClockMachine

namespace ClockSession

variable (limit : Nat) (globals : Globals) (actions : List (Action TimerId)) (n : Nat)

theorem unseen_after : ClockMachine.Unseen ((fresh globals actions).after limit n).machine :=
  (Session.after_invariant (ClockMachine.Unseen.load _ []) (fun m hm => hm.course m.course_step)
    (fun _ _ _ _ _ => ClockMachine.Unseen.load _ _) n).1

/-- The journal has the starts of the history, in order. -/
theorem journal_starts :
    ((fresh globals actions).after limit n).machine.world.journal.reverse.filterMap Event.fired? =
      (firings ((fresh globals actions).history limit n)).map fun f => (f.1.id, f.1.kind, f.2) := by
  induction n with
  | zero => rfl
  | succ n ih =>
      obtain ⟨told, hjournal, htells⟩ := Session.writes_step
        (P := VirtualClock.provider limit) ((fresh globals actions).after limit n)
      have hjournal : ((fresh globals actions).after limit (n + 1)).machine.world.journal.reverse =
        _ := hjournal
      rw [hjournal, List.filterMap_append, List.filterMap_append, ih, htells.unfired,
        List.append_nil, history, firings_append, List.map_append, happenings,
        ClockMachine.happenings, Session.contact?]
      congr 1
      cases Machine.contact? (VirtualClock.provider limit)
          ((fresh globals actions).after limit n).machine with
      | none => rfl
      | some c => exact VirtualClock.fired_events c _

/-- Which call comes back can be seen in the log. -/
theorem call?_iff {request : Request TimerId (Handler TimerId)}
    {result : Except TimerError (Answer TimerId)} :
    Session.call? (VirtualClock.provider limit) ((fresh globals actions).after limit n) =
        some ⟨request, result⟩ ↔
      ∃ caller action rest,
        ((fresh globals actions).after limit n).machine.control = .run caller (action :: rest) ∧
        Machine.plan (VirtualClock.provider limit)
          ((fresh globals actions).after limit n).machine.world caller action =
            .ask request true ∧
        ((fresh globals actions).after limit (n + 1)).machine.world.log =
          .did caller action (.answered result) ::
            ((fresh globals actions).after limit n).machine.world.log := by
  refine (Machine.call?_iff (unseen_after limit globals actions n)).trans ?_
  refine exists₃_congr fun caller action rest => and_congr_right fun hcontrol => ?_
  have hrunning : ((fresh globals actions).after limit n).machine.ended? = none := by
    rw [Machine.ended?, hcontrol]
  have hstep : (fresh globals actions).after limit (n + 1) = _ := Session.step_of_running hrunning
  rw [hstep]
  exact Iff.rfl

/-- **The journal is faithful.**  Read in order, it yields the set of
outstanding timers after every step of a run; each size in it is the size of
the set at that point; its events of timer calls are, one for one, those of the
calls that came back well through the interceptor, with the answers that the
callers got; and its firings are, one for one, the callbacks that were started,
with what the clock showed then. -/
theorem journal_faithful :
    let P : Provider (VirtualClock (Handler TimerId)) _ TimerId _ := VirtualClock.provider limit
    let s := fresh globals actions
    let world := (s.after limit n).machine.world
    let journal := journalFrom (some .trace) world.journal.reverse
    Event.replayAll journal = world.page.outstanding.map (·.ids.toFinset) ∧
    (∀ before e after, journal = before ++ e :: after → ∀ count, e.count? = some count →
      (Event.replayAll (before ++ [e])).map Finset.card = some count) ∧
    journal.filterMap Event.notice? = (Session.calls P s n).filterMap Call.notice? ∧
    (∀ request result, Session.call? P (s.after limit n) = some ⟨request, result⟩ ↔
      ∃ caller action rest,
        (s.after limit n).machine.control = .run caller (action :: rest) ∧
        Machine.plan P world caller action = .ask request true ∧
        (s.after limit (n + 1)).machine.world.log =
          .did caller action (.answered result) :: world.log) ∧
    journal.filterMap Event.fired? =
      (firings (s.history limit n)).map (fun f => (f.1.id, f.1.kind, f.2)) ∧
    (world.log.filterMap Entry.start?).reverse =
      (firings (s.history limit n)).map fun f => (f.1.firing, f.2) := by
  intro P s world journal
  have hfaithful : Faithful world.journal.reverse world.page (Session.calls P s n) :=
    Session.faithful_after (VirtualClock.discreet limit) _ globals actions n
  have hjournal : journal = world.journal.reverse := journalFrom_trace _
  rw [hjournal]
  refine ⟨hfaithful.replays, hfaithful.counts, hfaithful.notices, fun request result => ?_, ?_, ?_⟩
  · exact call?_iff limit globals actions n
  · exact journal_starts limit globals actions n
  · rw [log_starts, firings, List.map_filterMap]
    rfl

end ClockSession

end PageTimers
