/-
# What a throw leaves behind

A callback may throw while any number of drains wait for it, each in the
middle of its turn.  The throw takes them down one by one (`after_unwind`),
and all that they do on the way is to empty the slot of the running timer:

    what waits in the queue            stays there, with its time and place
    the timers under way               are gone, the outer ones too
    the clock and its counters         show what they showed

A timer under way is in no queue, and the callback that would have put it
back is not going to return.  So it is `Gone`, which nothing that happens
later undoes; a timer that waited goes on waiting (`waits_of_scheduled`).

That the thrown callback is the innermost, and its timer the first of those
under way, is a matter of who acts (`Called`).
-/
import Mathlib.Data.List.Nodup
import PageTimers.Proofs.Clock.Clearing

namespace PageTimers

namespace VirtualClock

variable {α : Type} {limit : Nat} {nests : Prop} {id : TimerId} {clock : VirtualClock α}
  {history : List (Happening α)} {x : Happening α} {p q : Place α}

/-! ## Timers that are gone -/

/-- A beat brings no timers but those that are held already and the one whose
turn it is to be handed out. -/
theorem held_beat (b : Beat nests p x q) :
    ∀ t ∈ held q, (∃ s ∈ held p, s.id = t.id) ∨ t.id = ⟨p.state.lastId + 1⟩ := by
  cases b with
  | @schedule clock us kind callback delay =>
      intro t ht
      rcases List.mem_cons.mp ht with rfl | ht
      · exact Or.inr rfl
      · exact Or.inl ⟨t, ht, rfl⟩
  | @cancel clock us other =>
      exact fun t ht => Or.inl ⟨t, (List.filter_sublist.append_right _).subset ht, rfl⟩
  | @start clock us goal left ran timer hnext _ _ =>
      intro t ht
      refine Or.inl ⟨t, mem_held.mpr ?_, rfl⟩
      rcases mem_held.mp ht with ht | ⟨u, hu, rfl⟩
      · exact Or.inl ((mem_start_queue _ _).mp ht).1
      · rcases List.mem_cons.mp hu with rfl | hu
        · exact Or.inl (next?_spec hnext).1
        · exact Or.inr ⟨u, hu, rfl⟩
  | @reach clock us goal _ _ _ =>
      intro t ht
      rw [held, reach_queue] at ht
      exact Or.inl ⟨t, ht, rfl⟩
  | @finish clock u us =>
      intro t ht
      rcases finish_cases u.timer clock with ⟨hrest, -⟩ | ⟨period, -, -, hqueue, -⟩
      · rw [hrest] at ht
        exact Or.inl ⟨t, over_sublist.subset ht, rfl⟩
      · rw [held, hqueue] at ht
        rcases List.mem_cons.mp ht with rfl | ht
        · exact Or.inl ⟨u.timer, mem_held.mpr (Or.inr ⟨u, List.mem_cons_self, rfl⟩), rfl⟩
        · exact Or.inl ⟨t, over_sublist.subset ht, rfl⟩
  | @abandon clock u us => exact fun t ht => Or.inl ⟨t, over_sublist.subset ht, rfl⟩

/-- The identifier was handed out, and no timer has it any more. -/
structure Gone (id : TimerId) (p : Place α) : Prop where
  issued : id.value ≤ p.state.lastId
  unheld : ∀ t ∈ held p, t.id ≠ id

theorem Tidy.rest {us : List (UnderWay α)} (h : Tidy ⟨clock, us⟩) : Tidy ⟨clock.rest, []⟩ := by
  refine h.of_sublist (.of_eq (List.append_nil _)) (List.sublist_append_left _ _) rfl rfl ?_
  intro r hr
  cases hr

namespace Gone

theorem beat (h : Gone id p) (b : Beat nests p x q) : Gone id q where
  issued := Nat.le_trans h.issued (lastId_le_beat b)
  unheld t ht := by
    rcases held_beat b t ht with ⟨s, hs, hid⟩ | hid
    · exact hid ▸ h.unheld s hs
    · rw [hid]
      rintro rfl
      exact absurd h.issued (Nat.not_succ_le_self _)

/-- When nothing runs any more, the timers that were under way are gone. -/
theorem of_underWay {us : List (UnderWay α)} {u : UnderWay α} (htidy : Tidy ⟨clock, us⟩)
    (hu : u ∈ us) : Gone u.timer.id ⟨clock.rest, []⟩ where
  issued := (htidy.issued u.timer (mem_held.mpr (Or.inr ⟨u, hu, rfl⟩))).2
  unheld t ht := by
    have hids := htidy.ids
    rw [held, List.map_append, List.nodup_append'] at hids
    rcases mem_held.mp ht with ht | ⟨_, hnone, _⟩
    · exact fun hid => hids.2.2 (List.mem_map_of_mem ht)
        (hid ▸ List.mem_map_of_mem (List.mem_map_of_mem hu))
    · exact absurd hnone List.not_mem_nil

/-- What is started was held. -/
theorem unstarted (h : Gone id p) (b : Beat nests p x q) : ¬ StartsOf id [x] := by
  cases b with
  | @start clock us goal left ran timer hnext _ _ =>
      rintro ⟨_, _, hmem, hid⟩
      cases List.mem_singleton.mp hmem
      exact h.unheld timer (mem_held.mpr (Or.inl (next?_spec hnext).1)) hid
  | schedule | cancel | reach | finish | abandon => exact not_startsOf_single (by simp)

/-- A timer that is gone stays so, and fires no more. -/
theorem beats (h : Gone id p) (hbeats : Beats nests p history q) :
    Gone id q ∧ ¬ StartsOf id history := by
  induction hbeats with
  | refl => exact ⟨h, fun ⟨_, _, hmem, _⟩ => List.not_mem_nil hmem⟩
  | snoc _ b ih =>
      refine ⟨ih.1.beat b, fun hstarts => ?_⟩
      exact (startsOf_append_iff.mp hstarts).elim ih.2 (ih.1.unstarted b)

theorem not_stoppable (h : Gone id p) (htidy : Tidy p) : ¬ p.state.Stoppable id := by
  rintro (hqueue | hrunning)
  · obtain ⟨t, ht, hid⟩ := List.mem_map.mp hqueue
    exact h.unheld t (mem_held.mpr (Or.inl ht)) hid
  · obtain ⟨u, us, hus, hid, -⟩ := htidy.slot _ hrunning
    exact h.unheld u.timer (mem_held.mpr (Or.inr ⟨u, hus ▸ List.mem_cons_self, rfl⟩)) hid.symm

end Gone

/-- A clear that finds nothing changes nothing. -/
theorem cancel_of_not_stoppable (h : ¬ clock.Stoppable id) : clock.cancel id = (false, clock) := by
  have hfound : (clock.cancel id).1 = false := by rwa [← Bool.not_eq_true, cancel_found_iff]
  have hstops : clock.stopsRunning id = false := by
    rw [← Bool.not_eq_true, stopsRunning_iff]
    exact fun hrunning => h (Or.inr hrunning)
  have hqueue : clock.queue.filter (·.id != id) = clock.queue := by
    refine List.filter_eq_self.mpr fun t ht => bne_iff_ne.mpr fun hid => h (Or.inl ?_)
    exact hid ▸ List.mem_map_of_mem ht
  refine Prod.ext hfound ?_
  simp only [cancel, hstops, hqueue, Bool.false_eq_true, if_false]

/-! ## Timers that wait -/

/-- A timer that waits goes on waiting until it is cleared or started. -/
theorem waits_beats (h : Beats nests p history q) (htidy : Tidy p)
    (hwaits : id ∈ p.state.queue.map (·.id)) (huncleared : ∀ found, .cleared id found ∉ history)
    (hunstarted : ¬ StartsOf id history) : id ∈ q.state.queue.map (·.id) := by
  induction h with
  | refl => exact hwaits
  | @snoc q r before x hbefore b ih =>
      have hq := ih (fun found hmem => huncleared found (List.mem_append_left _ hmem))
        fun hstarts => hunstarted (startsOf_append_iff.mpr (Or.inl hstarts))
      obtain ⟨t, ht, rfl⟩ := List.mem_map.mp hq
      refine List.mem_map_of_mem (f := (·.id)) (?_ : t ∈ r.state.queue)
      cases b with
      | schedule => exact List.mem_cons_of_mem _ ht
      | @cancel clock us other =>
          refine (mem_cancel_queue _ _).mpr ⟨ht, ?_⟩
          rintro rfl
          exact huncleared _ (List.mem_append_right _ (List.mem_singleton_self _))
      | @start clock us goal left ran timer hnext _ _ =>
          refine (mem_start_queue _ _).mpr ⟨ht, fun horder => hunstarted ?_⟩
          -- places are distinct, so it would be the one that is started
          have horders : (clock.queue.map (·.order)).Nodup :=
            (htidy.beats hbefore).orders.sublist ((List.sublist_append_left _ _).map _)
          have hsame := List.inj_on_of_nodup_map horders ht (next?_spec hnext).1 horder
          exact ⟨timer, _, List.mem_append_right _ (List.mem_singleton_self _), hsame ▸ rfl⟩
      | reach => rwa [reach_queue]
      | @finish clock u us =>
          rcases finish_cases u.timer clock with ⟨hrest, -⟩ | ⟨period, -, -, hqueue, -⟩
          · rwa [hrest]
          · rw [hqueue]
            exact List.mem_cons_of_mem _ ht
      | abandon => exact ht

theorem waits_of_scheduled {earlier later : List (Happening α)}
    (h : Beats nests ⟨.fresh, []⟩ (earlier ++ .scheduled id :: later) q)
    (huncleared : ∀ found, .cleared id found ∉ later) (hunstarted : ¬ StartsOf id later) :
    id ∈ q.state.queue.map (·.id) := by
  obtain ⟨before, hearlier, hrest⟩ := h.split
  obtain ⟨scheduled, b, hlater⟩ := hrest.cons_inv
  refine waits_beats hlater ((tidy_fresh.beats hearlier).beat b) ?_ huncleared hunstarted
  cases b with
  | schedule => exact List.mem_cons_self

/-! ## Callbacks that are started -/

theorem firing_of_ask {request : Request TimerId (Handler TimerId)}
    {clock : VirtualClock (Handler TimerId)} {firing : Firing TimerId (Handler TimerId)}
    {u : UnderWay (Handler TimerId)} (h : (ask limit request clock).outcome = .invoke firing u) :
    firing = u.timer.firing := by
  cases request with
  | schedule | clear => cases h
  | drain drain =>
      rcases ask_drain_cases limit drain clock with ⟨e, hrefused⟩ | ⟨goal, -, hturn⟩
      · rw [hrefused] at h
        cases h
      · rw [hturn] at h
        exact ClockSession.firing_of_proceed h

theorem firing_of_resume {drain : UnderWay (Handler TimerId)} {ended : Ended}
    {clock : VirtualClock (Handler TimerId)} {firing : Firing TimerId (Handler TimerId)}
    {u : UnderWay (Handler TimerId)} (h : (resume drain ended clock).outcome = .invoke firing u) :
    firing = u.timer.firing := by
  cases ended with
  | returned => exact ClockSession.firing_of_proceed h
  | thrown => cases h

end VirtualClock

/-! ## Who acts -/

namespace ClockMachine

/-- A waiting action, and the drain that waits with it. -/
abbrev Frame :=
  Waiting (VirtualClock.UnderWay (Handler TimerId)) TimerId ×
    VirtualClock.UnderWay (Handler TimerId)

/-- Who acts while these wait: the callback that the innermost waits for, or
the harness. -/
def callerOver : List Frame → Caller TimerId
  | [] => .harness
  | (_, u) :: _ => .callback (some u.timer.id)

/-- Each waits for the callback that acts while it waits. -/
def Nested (stack : List Frame) : Prop :=
  ∀ frame outer, frame :: outer <:+ stack → frame.1.caller = callerOver outer

theorem Nested.cons {frame : Frame} {stack : List Frame} (h : Nested stack)
    (hframe : frame.1.caller = callerOver stack) : Nested (frame :: stack) := by
  intro frame' outer hsuffix
  rcases List.suffix_cons_iff.mp hsuffix with heq | hsuffix
  · obtain ⟨rfl, rfl⟩ := List.cons.inj heq
    exact hframe
  · exact h frame' outer hsuffix

theorem Nested.head {frame : Frame} {stack : List Frame} (h : Nested (frame :: stack)) :
    frame.1.caller = callerOver stack ∧ Nested stack :=
  ⟨h frame stack (List.suffix_refl _),
    fun frame' outer hsuffix => h frame' outer (hsuffix.trans (List.suffix_cons _ _))⟩

/-- Those who act are those whose callbacks were started. -/
structure Called (m : ClockMachine) : Prop where
  nested : Nested m.stack
  acts : ∀ caller actions, m.control = .run caller actions → caller = callerOver m.stack

variable {limit : Nat} {m m' : ClockMachine} {c : Option (Contact TimerId (Handler TimerId))}

theorem Called.settle {world : ClockWorld}
    {w : Waiting (VirtualClock.UnderWay (Handler TimerId)) TimerId} {stack : List Frame}
    {move : Move (VirtualClock (Handler TimerId)) (VirtualClock.UnderWay (Handler TimerId)) TimerId
      (Handler TimerId)}
    (hstack : Nested stack) (hw : w.caller = callerOver stack)
    (hmove : ∀ firing u, move.outcome = .invoke firing u → firing = u.timer.firing) :
    Called (Machine.settle (VirtualClock.provider limit) world w stack move) := by
  unfold Machine.settle
  cases hout : move.outcome with
  | answer result => exact ⟨hstack, fun _ _ h => by cases h; exact hw⟩
  | invoke firing u =>
      obtain rfl := hmove firing u hout
      exact ⟨hstack.cons hw, fun _ _ h => by cases h; rfl⟩
  | rethrow => exact ⟨hstack, fun _ _ h => by cases h⟩

theorem Called.course (h : m.Called) (hcourse : Machine.Course (VirtualClock.provider limit) m c m') :
    m'.Called := by
  cases hcourse with
  | stays => exact h
  | halts => exact ⟨h.nested, fun _ _ hrun => by cases hrun⟩
  | throws => exact ⟨h.nested, fun _ _ hrun => by cases hrun⟩
  | did => exact ⟨h.nested, fun _ _ hrun => by cases hrun; exact h.acts _ _ rfl⟩
  | asked rest stack hplan =>
      exact .settle h.nested (h.acts _ _ rfl) fun _ _ => VirtualClock.firing_of_ask
  | ended world control frame stack ended =>
      exact .settle h.nested.head.2 h.nested.head.1 fun _ _ => VirtualClock.firing_of_resume

/-- A callback that acts is that of the innermost timer under way. -/
theorem Called.innermost {self : Option TimerId} {actions : List (Action TimerId)} (h : m.Called)
    (hrun : m.control = .run (.callback self) actions) :
    ∃ frame outer, m.stack = frame :: outer ∧ self = some frame.2.timer.id := by
  have hself := h.acts _ _ hrun
  cases hstack : m.stack with
  | nil =>
      rw [hstack] at hself
      cases hself
  | cons frame outer =>
      rw [hstack] at hself
      exact ⟨frame, outer, rfl, Caller.callback.inj hself⟩

theorem called_load (world : ClockWorld) (program : List (Action TimerId)) :
    Called (Machine.load world program : ClockMachine) where
  nested := fun _ _ hsuffix => absurd (List.suffix_nil.mp hsuffix) (List.cons_ne_nil _ _)
  acts := fun _ _ h => by cases h; rfl

end ClockMachine

/-! ## The throw takes its way -/

namespace ClockSession

variable {limit : Nat}

theorem called_after (limit : Nat) (globals : Globals) (actions : List (Action TimerId)) (n : Nat) :
    ClockMachine.Called ((fresh globals actions).after limit n).machine :=
  (Session.after_invariant (ClockMachine.called_load _ [])
    (fun m hm => hm.course m.course_step)
    (fun _ _ _ _ _ => ClockMachine.called_load _ _) n).1

/-- An exception comes down the whole stack, and nothing runs any more. -/
theorem after_unwind (coming : List (Action TimerId)) (stack : List ClockMachine.Frame) :
    ∀ world : ClockWorld, (stack = [] → world.provider.running = none) →
      after limit ⟨⟨world, .unwind, stack⟩, coming⟩ (stack.length + 1) =
        ⟨⟨{ world with provider := world.provider.rest }, .halt .thrown, []⟩, coming⟩ := by
  induction stack with
  | nil =>
      intro world hidle
      rw [VirtualClock.rest, ← hidle rfl]
      rfl
  | cons frame stack ih =>
      intro world _
      rw [after, Session.after_succ', Session.step_of_running rfl]
      exact ih { world with provider := world.provider.rest } fun _ => rfl

/-- The throw, the way down, and the end. -/
theorem after_throw {s : ClockSession} {caller : Caller TimerId} {rest : List (Action TimerId)}
    (hthrow : s.machine.control = .run caller (.throw :: rest))
    (hidle : s.machine.stack = [] → s.clock.running = none) :
    s.after limit (s.underWay.length + 2) =
      ⟨⟨{ s.machine.world with provider := s.clock.rest }, .halt .thrown, []⟩, s.coming⟩ := by
  obtain ⟨⟨world, control, stack⟩, coming⟩ := s
  cases hthrow
  rw [underWay, List.length_map, after, Session.after_succ', Session.step_of_running rfl]
  exact after_unwind coming stack world hidle

/-- Two sessions that go on alike: their harnesses have the same before them, in
the same world. -/
def Alike (s s' : ClockSession) : Prop :=
  s = s' ∨ s.machine.ended?.isSome ∧ s'.machine.ended?.isSome ∧
    s.machine.world = s'.machine.world ∧ s.coming = s'.coming

namespace Alike

variable {s s' : ClockSession}

theorem world_eq (h : Alike s s') : s.machine.world = s'.machine.world := by
  rcases h with rfl | ⟨-, -, hworld, -⟩
  · rfl
  · exact hworld

/-- How the last action has ended makes no difference to what comes. -/
theorem step (h : Alike s s') :
    Alike (Session.step (VirtualClock.provider limit) s)
      (Session.step (VirtualClock.provider limit) s') := by
  rcases h with rfl | ⟨hended, hended', hworld, hcoming⟩
  · exact Or.inl rfl
  · cases hs : s.coming with
    | nil =>
        rw [Session.step_of_over hended hs, Session.step_of_over hended' (hcoming ▸ hs)]
        exact Or.inr ⟨hended, hended', hworld, hcoming⟩
    | cons action rest =>
        rw [Session.step_of_next hended hs, Session.step_of_next hended' (hcoming ▸ hs), hworld]
        exact Or.inl rfl

theorem after (h : Alike s s') : ∀ n, Alike (s.after limit n) (s'.after limit n)
  | 0 => h
  | n + 1 => (after h n).step

end Alike

/-- A session goes on from the end of an action as it would have begun. -/
theorem world_after_ended {s : ClockSession} (hended : s.machine.ended?.isSome) (later : Nat) :
    (s.after limit later).machine.world =
      (after limit (Session.start s.machine.world s.coming) (later + 1)).machine.world := by
  have halike : Alike s (Session.step (VirtualClock.provider limit)
      (Session.start s.machine.world s.coming)) := Or.inr ⟨hended, rfl, rfl, rfl⟩
  rw [after, after, Session.after_succ']
  exact (halike.after later).world_eq

/-- Where all that was under way has been given up, its timers are gone,
whatever comes. -/
theorem gone_of_underWay {s caught : ClockSession} (htidy : VirtualClock.Tidy (Session.site s))
    (hsettled : caught.machine.Settled) (hsite : Session.site caught = ⟨s.clock.rest, []⟩)
    {timer : QueuedTimer (Handler TimerId)} (htimer : timer ∈ s.underWay) (later : Nat) :
    VirtualClock.Gone timer.id (Session.site (caught.after limit later)) ∧
      ¬ StartsOf timer.id (caught.history limit later) ∧
      ¬ (caught.after limit later).clock.Stoppable timer.id := by
  obtain ⟨frame, hframe, rfl⟩ := List.mem_map.mp htimer
  have hbeats : VirtualClock.Beats True ⟨s.clock.rest, []⟩ (caught.history limit later)
      (Session.site (caught.after limit later)) := by
    rw [← hsite]
    refine beats_from limit hsettled ?_ later (Or.inr trivial)
    rw [hsite]
    exact fun _ hu => absurd hu List.not_mem_nil
  have hgone : VirtualClock.Gone frame.2.timer.id
      (⟨s.clock.rest, []⟩ : VirtualClock.Place (Handler TimerId)) :=
    .of_underWay htidy (List.mem_map_of_mem hframe)
  obtain ⟨hstays, hsilent⟩ := hgone.beats hbeats
  exact ⟨hstays, hsilent, hstays.not_stoppable (htidy.rest.beats hbeats)⟩

/-- **A throwing callback leaves a consistent clock.**  Wherever a callback
throws, in however many drains, the throw comes to the harness, and then the
world is what it was at the throw, except that nothing runs.  The callback's
timer is the innermost of those under way, and all of them are gone: they
wait no longer, clearing them finds nothing, and they are not started again.
Every other timer still waits, one that the callback has scheduled too; and
the harness goes on as it would have begun in that world. -/
theorem throw_leaves_consistent (limit : Nat) (globals : Globals) (actions : List (Action TimerId))
    (n : Nat) {self : Option TimerId} {rest : List (Action TimerId)}
    (hthrow : ((fresh globals actions).after limit n).machine.control =
      .run (.callback self) (.throw :: rest)) :
    let thrown := (fresh globals actions).after limit n
    let caught := thrown.after limit (thrown.underWay.length + 2)
    caught.machine = ⟨{ thrown.machine.world with
      provider := { thrown.clock with running := none } }, .halt .thrown, []⟩ ∧
    (∃ timer outer, thrown.underWay = timer :: outer ∧ self = some timer.id) ∧
    (∀ timer ∈ thrown.underWay, ∀ later,
      (∀ t now, .started t now ∈ caught.history limit later → t.id ≠ timer.id) ∧
      (∀ t ∈ (caught.after limit later).clock.queue, t.id ≠ timer.id) ∧
      ∀ kind, VirtualClock.ask limit (.clear kind timer.id) (caught.after limit later).clock =
        ⟨[], (caught.after limit later).clock, .answer (.ok (.cleared false))⟩) ∧
    (∀ earlier id later,
      (fresh globals actions).history limit n = earlier ++ .scheduled id :: later →
      (∀ found, .cleared id found ∉ later) → (∀ t now, .started t now ∈ later → t.id ≠ id) →
      ∃ t ∈ caught.clock.queue, t.id = id) ∧
    caught.coming = thrown.coming ∧
    ∀ later, (caught.after limit later).machine.world =
      (after limit (Session.start caught.machine.world caught.coming) (later + 1)).machine.world := by
  intro thrown caught
  have hbeats : VirtualClock.Beats True ⟨.fresh, []⟩ ((fresh globals actions).history limit n)
      (Session.site thrown) := beats_after limit globals actions n (Or.inr trivial)
  have htidy : VirtualClock.Tidy (Session.site thrown) := VirtualClock.tidy_fresh.beats hbeats
  obtain ⟨frame, outer, hstack, hself⟩ := (called_after limit globals actions n).innermost hthrow
  have hcaught : caught = ⟨⟨{ thrown.machine.world with
      provider := thrown.clock.rest }, .halt .thrown, []⟩, thrown.coming⟩ := by
    refine after_throw hthrow fun hnil => ?_
    rw [hstack] at hnil
    cases hnil
  refine ⟨by rw [hcaught]; rfl, ?_, ?_, ?_, by rw [hcaught], world_after_ended ?_⟩
  · refine ⟨frame.2.timer, outer.map (·.2.timer), ?_, hself⟩
    rw [underWay, hstack]
    rfl
  · intro timer htimer later
    have hsettled : caught.machine.Settled := fun _ => by rw [hcaught]
    have hsite : Session.site caught = ⟨thrown.clock.rest, []⟩ := by rw [hcaught]; rfl
    obtain ⟨hgone, hsilent, hnothing⟩ :=
      gone_of_underWay htidy hsettled hsite htimer later
    refine ⟨?_, ?_, fun kind => ?_⟩
    · intro t now hmem hid
      exact hsilent ⟨t, now, hmem, hid⟩
    · exact fun t ht => hgone.unheld t (VirtualClock.mem_held.mpr (Or.inl ht))
    · simp only [VirtualClock.ask, VirtualClock.cancel_of_not_stoppable hnothing]
  · intro earlier id later hhistory huncleared hunstarted
    rw [hhistory] at hbeats
    have hsilent : ¬ StartsOf id later := by
      rintro ⟨t, now, hmem, hid⟩
      exact hunstarted t now hmem hid
    have hwaits := VirtualClock.waits_of_scheduled hbeats huncleared hsilent
    rw [hcaught]
    exact List.mem_map.mp hwaits
  · rw [hcaught]
    rfl

/-- It schedules a timer, and then throws. -/
def thrower : Handler TimerId :=
  .mk false [] [.schedule .page .once (.ofMillis 5) none .idle, .throw]

/-- It runs, inside its own callback, the one that throws. -/
def host : Handler TimerId :=
  .mk false [] [.schedule .page .once (.ofMillis 0) none thrower, .drain .runDue]

def hostActions : List (Action TimerId) :=
  [.schedule .page .repeating (.ofMillis 10) none host, .drain (.advance (.ofMillis 10))]

/-- The throw of the inner callback takes the outer timer along, which
repeats, and leaves the timer that the inner one scheduled. -/
theorem inner_throw_forgets_outer :
    let thrown := (fresh .empty hostActions).after 5 9
    let caught := thrown.after 5 4
    thrown.machine.control = .run (.callback (some ⟨2⟩)) [.throw] ∧
    thrown.underWay.map (·.id) = [⟨2⟩, ⟨1⟩] ∧
    caught.machine.control = .halt .thrown ∧ caught.clock.now = 10 ∧ caught.clock.running = none ∧
    caught.clock.queue.map (·.id) = [⟨3⟩] ∧
    (VirtualClock.ask 5 (.clear .repeating ⟨1⟩) caught.clock).outcome =
      .answer (.ok (.cleared false)) := by
  intro thrown caught
  have hthrow : thrown.machine.control = .run (.callback (some ⟨2⟩)) [.throw] := rfl
  obtain ⟨hmachine, -, hgone, -⟩ := throw_leaves_consistent 5 .empty hostActions 9 hthrow
  refine ⟨hthrow, rfl, congrArg Machine.control hmachine, ?_, ?_, ?_, ?_⟩
  · exact congrArg (·.world.provider.now) hmachine
  · exact congrArg (·.world.provider.running) hmachine
  · exact congrArg (·.world.provider.queue.map (·.id)) hmachine
  · obtain ⟨-, -, hclear⟩ := hgone _ (List.mem_cons_of_mem _ List.mem_cons_self) 0
    exact congrArg Move.outcome (hclear .repeating)

end ClockSession

end PageTimers
