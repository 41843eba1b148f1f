/-
# A page with nothing outstanding is quiet

Two parties keep books on the timers of a page: the clock, in its queue and
in its `running` slot, and the interceptor, in the set of outstanding
timers.  They hear of things at different moments.  The interceptor hears of
what is scheduled and cleared through the page, but not of what fires, nor of
a clear that goes to the clock directly.  So the set may hold too much; the
point is that it never holds too little.

`Heard` is all that a step can do to the set, next to what happens at the
clock.  With it `Covers`, the invariant of the clock, is one of the page
(`Covered.course`): the interceptor hears of all that is scheduled, and what it
gives up was cleared.
-/
import PageTimers.Proofs.Clock.Coverage
import PageTimers.Proofs.Page.Tracking

namespace PageTimers

/-! ## Programs that schedule through the page -/

namespace Action

variable {ι : Type}

/-- It schedules a timer behind the interceptor's back. -/
def bypasses : Action ι → Bool
  | .schedule .provider _ _ _ _ => true
  | _ => false

theorem not_bypasses_of_isDrain {a : Action ι} (h : a.isDrain = true) : a.bypasses = false := by
  cases a with
  | drain drain => rfl
  | _ => cases h

/-- It neither drains nor goes behind the interceptor's back. -/
def isGentle (a : Action ι) : Bool := !a.isDrain && !a.bypasses

/-- It schedules through the page, and so do the callbacks that it brings
along, which do not drain either. -/
def tame (a : Action ι) : Bool := !a.bypasses && a.obeys isGentle

end Action

namespace ClockMachine

variable {limit : Nat} {m : ClockMachine}

/-- The interceptor is there, and no request that waits is one of its own. -/
structure Intercepted (m : ClockMachine) : Prop where
  installed : m.world.page.isIntercepted = true
  unwatched : ∀ frame ∈ m.stack, frame.1.watched = false

/-- What a step did to the set of outstanding timers is what happened at the
clock, as far as the interceptor heard of it. -/
def Heard (history : List (Happening (Handler TimerId))) (m m' : ClockMachine) : Prop :=
  ((∀ id, m'.world.page.Tracks id ↔ m.world.page.Tracks id) ∧ ∀ id, .scheduled id ∉ history) ∨
  (∃ id, history = [.scheduled id] ∧
    ∀ other, m'.world.page.Tracks other ↔ other = id ∨ m.world.page.Tracks other) ∨
  ∃ id found, history = [.cleared id found] ∧
    ∀ other, m'.world.page.Tracks other ↔ other ≠ id ∧ m.world.page.Tracks other

theorem heard_of_outstanding_eq {history : List (Happening (Handler TimerId))} {m' : ClockMachine}
    (h : m'.world.page.outstanding = m.world.page.outstanding)
    (hnew : ∀ id, .scheduled id ∉ history) : Heard history m m' := by
  refine Or.inl ⟨fun id => ?_, hnew⟩
  rw [Page.Tracks, h]
  rfl

theorem Intercepted.of_outstanding_eq {m' : ClockMachine} (hm : m.Intercepted)
    (h : m'.world.page.outstanding = m.world.page.outstanding)
    (hunwatched : ∀ frame ∈ m'.stack, frame.1.watched = false) : m'.Intercepted where
  installed := by
    rw [Page.isIntercepted, h]
    exact hm.installed
  unwatched := hunwatched

/-- A callback that has come to its end tells the interceptor nothing. -/
theorem Intercepted.ended {world : World (VirtualClock (Handler TimerId)) TimerId}
    {control : Control TimerId} {frame} {stack} (hm : Intercepted ⟨world, control, frame :: stack⟩)
    (limit : Nat) (move) :
    Intercepted (Machine.settle (VirtualClock.provider limit) world frame.1 stack move) ∧
      (Machine.settle (VirtualClock.provider limit) world frame.1 stack move).world.page =
        world.page := by
  have hpage : (Machine.settle (VirtualClock.provider limit) world frame.1 stack move).world.page =
      world.page := Machine.settle_page_of_unwatched (hm.unwatched frame List.mem_cons_self)
  refine ⟨hm.of_outstanding_eq (congrArg _ hpage) fun other hother => ?_, hpage⟩
  rcases Machine.mem_settle_stack hother with hother | ⟨hw, -⟩
  · exact hm.unwatched other (List.mem_cons_of_mem _ hother)
  · rw [hw]
    exact hm.unwatched frame List.mem_cons_self

/-- A request that is answered at once leaves the stack alone. -/
theorem Intercepted.answered {world : World (VirtualClock (Handler TimerId)) TimerId}
    {control : Control TimerId} {stack} (hm : Intercepted ⟨world, control, stack⟩) (limit : Nat)
    {w} {move} {result : Except TimerError (Answer TimerId)}
    (hmove : move.outcome = .answer result) :
    Intercepted (Machine.settle (VirtualClock.provider limit) world w stack move) := by
  refine ⟨?_, fun frame hframe => ?_⟩
  · exact (Machine.settle_keeps fun _ => Page.isIntercepted_note _).trans hm.installed
  · rcases Machine.mem_settle_stack hframe with hframe | ⟨-, firing, hinvoke⟩
    · exact hm.unwatched frame hframe
    · rw [hmove] at hinvoke
      cases hinvoke

/-- What is asked of the clock, and how it answers, reaches the interceptor
where it went through the page. -/
theorem Intercepted.asked {world : World (VirtualClock (Handler TimerId)) TimerId}
    {caller : Caller TimerId} {action : Action TimerId} {rest : List (Action TimerId)} {stack}
    {request : Request TimerId (Handler TimerId)} {watched : Bool}
    (hm : Intercepted ⟨world, .run caller (action :: rest), stack⟩)
    (hplan : Machine.plan (VirtualClock.provider limit) world caller action = .ask request watched)
    (hroute : action.bypasses = false) :
    Intercepted (Machine.settle (VirtualClock.provider limit) world
        ⟨caller, action, request, watched, rest⟩ stack
        ((VirtualClock.provider limit).ask request world.provider)) ∧
      Heard (VirtualClock.happenings limit (.ask request) ⟨world.provider, stack.map (·.2)⟩)
        ⟨world, .run caller (action :: rest), stack⟩
        (Machine.settle (VirtualClock.provider limit) world ⟨caller, action, request, watched, rest⟩
          stack ((VirtualClock.provider limit).ask request world.provider)) := by
  have hinstalled : world.page.isIntercepted = true := hm.installed
  rcases Machine.plan_ask hplan with ⟨route, kind, delay, name, handler, rfl, rfl, rfl⟩ |
    ⟨route, kind, target, id, rfl, -, rfl, rfl⟩ | ⟨drain, rfl, rfl, rfl⟩
  · cases route with
    | provider => cases hroute
    | page =>
        have hmove : ((VirtualClock.provider limit).ask (.schedule kind handler delay)
            world.provider).outcome = .answer (.ok (.scheduled ⟨world.provider.lastId + 1⟩)) := rfl
        refine ⟨hm.answered limit hmove, Or.inr (Or.inl ⟨_, rfl, fun other => ?_⟩)⟩
        rw [Machine.settle_page_of_answer hmove]
        simp only [Machine.isWatched, hinstalled, if_true]
        exact Page.tracks_noteScheduled hinstalled
  · have hmove : ((VirtualClock.provider limit).ask (.clear kind id) world.provider).outcome =
        .answer (.ok (.cleared (world.provider.cancel id).1)) := rfl
    refine ⟨hm.answered limit hmove, ?_⟩
    cases hwatched : Machine.isWatched world route with
    | true =>
        refine Or.inr (Or.inr ⟨id, _, rfl, fun other => ?_⟩)
        rw [Machine.settle_page_of_answer hmove]
        exact Page.tracks_noteCleared
    | false =>
        -- a clear behind its back: the set keeps what the queue has lost
        refine heard_of_outstanding_eq ?_ ?_
        · rw [Machine.settle_page_of_unwatched rfl]
        · intro other hmem
          cases List.mem_singleton.mp hmem
  · have hpage : (Machine.settle (VirtualClock.provider limit) world
        ⟨caller, .drain drain, .drain drain, false, rest⟩ stack
        ((VirtualClock.provider limit).ask (.drain drain) world.provider)).world.page = world.page :=
      Machine.settle_page_of_unwatched rfl
    refine ⟨hm.of_outstanding_eq (congrArg _ hpage) fun frame hframe => ?_,
      heard_of_outstanding_eq (congrArg _ hpage) ?_⟩
    · rcases Machine.mem_settle_stack hframe with hframe | ⟨hw, -⟩
      · exact hm.unwatched frame hframe
      · rw [hw]
    · exact fun _ => VirtualClock.not_scheduled_of_drain

variable {c : Option (Contact TimerId (Handler TimerId))} {m' : ClockMachine}

/-- The interceptor hears of all that is scheduled, and only a clear makes it
give a timer up. -/
theorem Intercepted.course (hm : m.Intercepted)
    (hcourse : Machine.Course (VirtualClock.provider limit) m c m')
    (hrouted : ∀ caller action rest, m.control = .run caller (action :: rest) →
      action.bypasses = false) :
    m'.Intercepted ∧ Heard (happeningsOn limit c m) m m' := by
  cases hcourse with
  | stays => exact ⟨hm, heard_of_outstanding_eq rfl fun _ => List.not_mem_nil⟩
  | halts | throws =>
      exact ⟨hm.of_outstanding_eq rfl hm.unwatched,
        heard_of_outstanding_eq rfl fun _ => List.not_mem_nil⟩
  | @did world world' caller action result rest stack hplan =>
      have hpage : world'.page.outstanding = world.page.outstanding := by
        rcases Machine.plan_finish_outstanding hplan with h | ⟨hnone, -⟩
        · exact h
        · have hinstalled : world.page.isIntercepted = true := hm.installed
          rw [Page.isIntercepted, hnone] at hinstalled
          cases hinstalled
      exact ⟨hm.of_outstanding_eq hpage hm.unwatched,
        heard_of_outstanding_eq hpage fun _ => List.not_mem_nil⟩
  | @asked world caller action request watched rest stack hplan =>
      exact hm.asked hplan (hrouted caller action rest rfl)
  | ended world control frame stack ended =>
      obtain ⟨hnext, hpage⟩ :=
        hm.ended limit ((VirtualClock.provider limit).resume frame.2 ended world.provider)
      refine ⟨hnext, heard_of_outstanding_eq (congrArg _ hpage) fun id hmem => ?_⟩
      cases ended with
      | thrown => cases List.mem_singleton.mp hmem
      | returned =>
          rcases List.mem_cons.mp hmem with he | hmem
          · cases he
          · exact VirtualClock.not_scheduled_of_drain hmem

/-- Between any two steps, what the clock holds is outstanding. -/
structure Covered (m : ClockMachine) : Prop extends Intercepted m where
  inTime : VirtualClock.Place.InTime m.site
  covers : VirtualClock.Covers m.world.page.Tracks m.site

theorem Covered.course (hm : m.Covered) (ho : m.Obedient Action.isGentle)
    (hcourse : Machine.Course (VirtualClock.provider limit) m c m') : m'.Covered := by
  have hrouted : ∀ caller action rest, m.control = .run caller (action :: rest) →
      action.bypasses = false := by
    intro caller action rest hcontrol
    rcases (ho.control caller _ hcontrol action List.mem_cons_self).1 with hgentle | ⟨hdrain, -⟩
    · rw [Action.isGentle, Bool.and_eq_true] at hgentle
      simpa using hgentle.2
    · exact Action.not_bypasses_of_isDrain hdrain
  obtain ⟨hnext, hheard⟩ := hm.toIntercepted.course hcourse hrouted
  have hbeats : VirtualClock.Beats False m.site (happeningsOn limit c m) m'.site := by
    refine beats_of_course limit hcourse hm.inTime (Or.inl ?_)
    rintro contact rfl
    exact ho.calm (fun _ => rfl) hcourse
  refine ⟨hnext, hbeats.invariant (fun _ _ _ hp b => hp.beat b) hm.inTime, ?_⟩
  rcases hheard with ⟨hsame, hnew⟩ | ⟨id, hhappenings, htracks⟩ | ⟨id, found, hhappenings, htracks⟩
  · exact hm.covers.beats hbeats (fun id hid _ => (hsame id).mpr hid)
      fun id hid => absurd hid (hnew id)
  · refine hm.covers.beats hbeats (fun other hother _ => (htracks other).mpr (Or.inr hother)) ?_
    intro other hother
    rw [hhappenings] at hother
    cases List.mem_singleton.mp hother
    exact (htracks id).mpr (Or.inl rfl)
  · refine hm.covers.beats hbeats (fun other hother hclear => (htracks other).mpr ⟨?_, hother⟩) ?_
    · rintro rfl
      exact hclear found (hhappenings ▸ List.mem_singleton_self _)
    · intro other hother
      rw [hhappenings] at hother
      cases List.mem_singleton.mp hother

theorem Covered.load (hm : m.Covered) (action : Action TimerId) :
    Covered (Machine.load m.world [action]) where
  installed := hm.installed
  unwatched _ h := absurd h List.not_mem_nil
  inTime _ h := absurd h List.not_mem_nil
  covers := ⟨hm.covers.waiting, hm.covers.running, fun _ h => absurd h List.not_mem_nil,
    Nat.zero_le 1⟩

end ClockMachine

namespace ClockSession

/-- A page with a fresh clock whose interceptor is installed first. -/
def intercepted (globals : Globals) (actions : List (Action TimerId)) : ClockSession :=
  fresh globals (.installInterceptor :: actions)

def page (s : ClockSession) : Page TimerId := s.machine.world.page

section Quiescence

variable (limit : Nat) (globals : Globals) {actions : List (Action TimerId)}

theorem gentle_of_tame (htame : ∀ a ∈ actions, a.tame = true) :
    ∀ a ∈ Action.installInterceptor :: actions,
      (a.isGentle = true ∨ a.isDrain = true) ∧ a.obeys Action.isGentle = true := by
  intro a ha
  rcases List.mem_cons.mp ha with rfl | ha
  · exact ⟨Or.inl rfl, rfl⟩
  · have h := htame a ha
    rw [Action.tame, Bool.and_eq_true] at h
    refine ⟨?_, h.2⟩
    cases hdrain : a.isDrain with
    | true => exact Or.inr rfl
    | false => exact Or.inl (by rw [Action.isGentle, hdrain, h.1]; rfl)

/-- What the clock holds is outstanding at every moment; until the interceptor
is installed it holds nothing. -/
theorem covers_after (htame : ∀ a ∈ actions, a.tame = true) (n : Nat) :
    VirtualClock.Covers ((intercepted globals actions).after limit n).page.Tracks
      (Session.site ((intercepted globals actions).after limit n)) := by
  have hactions := gentle_of_tame htame
  -- the first three steps lead up to the installed interceptor
  match n with
  | 0 | 1 | 2 => exact VirtualClock.Covers.fresh
  | k + 3 =>
      rw [Nat.add_comm, after, Session.after_add]
      refine (Session.after_invariant
        (I := fun m => Machine.Obedient Action.isGentle m ∧ ClockMachine.Covered m)
        ?_ ?_ ?_ k).1.2.covers
      · exact ⟨obedient_after limit globals (fun _ => rfl) hactions 3,
          ⟨rfl, fun _ h => absurd h List.not_mem_nil⟩, fun _ h => absurd h List.not_mem_nil,
          VirtualClock.Covers.fresh⟩
      · exact fun m hm => ⟨hm.1.course (fun _ => rfl) m.course_step, hm.2.course hm.1 m.course_step⟩
      · intro m hm _ action haction
        exact ⟨hm.1.load (hactions action (List.mem_cons_of_mem _ haction)), hm.2.load action⟩

end Quiescence

/-- **Quiescence is sound.**  Where the interceptor is installed first and
every timer is scheduled through the page, by callbacks that do not drain:
all that waits is outstanding, and so is a repeating timer under way that was
not cleared since it was started.  So when nothing is outstanding and no
callback runs, nothing waits, and no callback is started until something is
scheduled. -/
theorem quiescence_sound (limit : Nat) (globals : Globals) {actions : List (Action TimerId)}
    (htame : ∀ a ∈ actions, a.tame = true) (n : Nat) :
    let s := (intercepted globals actions).after limit n
    (∀ t ∈ s.clock.queue, s.page.Tracks t.id) ∧
    (∀ t ∈ s.underWay, ∃ earlier now since,
      (intercepted globals actions).history limit n = earlier ++ .started t now :: since ∧
        (t.kind = .repeating → (∀ found, .cleared t.id found ∉ since) → s.page.Tracks t.id)) ∧
    ∀ set, s.page.outstanding = some set → set.isEmpty = true → s.underWay = [] →
      s.clock.queue = [] ∧
        ∀ k, (∀ id, .scheduled id ∉ s.history limit k) → firings (s.history limit k) = [] := by
  intro s
  have hactions := gentle_of_tame htame
  have hcovers := covers_after limit globals htame n
  refine ⟨hcovers.waiting, ?_, ?_⟩
  · intro t ht
    obtain ⟨frame, hframe, rfl⟩ := List.mem_map.mp ht
    obtain ⟨earlier, now, since, hhistory, hslot⟩ :=
      VirtualClock.uncancelled_of_underWay
        (beats_of_obeys limit globals (p := Action.isGentle) (fun _ => rfl) hactions n)
        frame.2 (List.mem_map_of_mem hframe)
    refine ⟨earlier, now, since, hhistory, fun hkind hclear => hcovers.running _ ?_⟩
    rw [← hkind]
    exact hslot hclear
  · intro set hset hempty hunderWay
    have hqueue : s.clock.queue = [] := List.eq_nil_iff_forall_not_mem.mpr fun t ht =>
      Page.not_tracks_of_isEmpty hset hempty (hcovers.waiting t ht)
    have hstack : s.machine.stack = [] := List.map_eq_nil_iff.mp hunderWay
    refine ⟨hqueue, fun k hnew => ?_⟩
    have hlater := beats_onwards limit globals (p := Action.isGentle) (fun _ => rfl) hactions n k
    exact (VirtualClock.idle_of_unscheduled hlater hqueue
      (List.map_eq_nil_iff.mpr hstack) hnew).1

/-- It clears its own timer. -/
def selfStoppingTick : Handler TimerId := .mk false [] [.clear .page .repeating .self]

def selfStoppingActions : List (Action TimerId) :=
  [.schedule .page .repeating (.ofMillis 10) none selfStoppingTick,
    .drain (.advance (.ofMillis 10)), .drain .flush]

/-- Once it is scheduled the timer is outstanding.  After the first drain
nothing is, and the second runs nothing. -/
theorem self_stopping_is_quiet :
    (∀ a ∈ selfStoppingActions, a.tame = true) ∧
    (∃ t ∈ ((intercepted .empty selfStoppingActions).after 10000 6).clock.queue,
      ((intercepted .empty selfStoppingActions).after 10000 6).page.Tracks t.id) ∧
    firings (((intercepted .empty selfStoppingActions).after 10000 11).history 10000 5) = [] :=
  ⟨by decide,
    ⟨_, List.mem_cons_self, (quiescence_sound 10000 .empty (by decide) 6).1 _ List.mem_cons_self⟩,
    ((quiescence_sound 10000 .empty (by decide) 11).2.2 .empty rfl rfl rfl).2 5
      (by simp [show ((intercepted .empty selfStoppingActions).after 10000 11).history 10000 5 =
        [.reached 10] from rfl])⟩

end ClockSession

end PageTimers
