/-
# No timer is duplicated

A timer is given the next number when it is scheduled, and keeps it for good:
a repeating timer that is armed again goes back into the queue under its own
number, however many drains ran inside its callback meanwhile.  `Accounted`
relates three things that say which timers there are,

    issued     the numbers that were handed out, in the order of the calls
    history    the callbacks that were started so far
    the clock  the timers that wait, and those whose callbacks run

and all that is said of duplicates follows.  The invariant for a one-shot
timer is a sum: how often it was started and how often it waits come to one at
most.  Starting it moves the one to the other side, cancelling it takes the
one away, and no return puts it back, because what a return puts back repeats.

Which timers are one-shot is what the calls said, so the numbers are kept with
their kinds, and both are read off the log.
-/
import Mathlib.Data.List.Nodup
import PageTimers.Proofs.Clock.Coverage

namespace PageTimers

/-- The timer that was scheduled, by an entry of the log, and its kind. -/
def Entry.issued? {ι : Type} : Entry ι → Option (ι × TimerKind)
  | .did _ (.schedule _ kind _ _ _) (.answered (.ok (.scheduled id))) => some (id, kind)
  | _ => none

namespace VirtualClock

variable {α : Type}

/-! ## The account of all timers -/

/-- All timers are accounted for: the numbers that were handed out, each with
the kind of its timer, agree with what was started and with what the clock
holds. -/
structure Accounted (issued : List (TimerId × TimerKind)) (history : List (Happening α))
    (p : Place α) : Prop where
  tidy : Tidy p
  numbered : issued.map (·.1.value) = List.range' 1 p.state.lastId
  kinds : ∀ t ∈ held p, (t.id, t.kind) ∈ issued
  fired : ∀ s ∈ firings history, (s.1.id, s.1.kind) ∈ issued
  /-- A one-shot timer was started, or waits, or neither. -/
  once : ∀ id, (id, TimerKind.once) ∈ issued →
    (firings history).countP (·.1.id == id) + p.state.queue.countP (·.id == id) ≤ 1

namespace Accounted

variable {issued : List (TimerId × TimerKind)} {history : List (Happening α)} {p q : Place α}

theorem fresh : Accounted [] [] (⟨.fresh, []⟩ : Place α) where
  tidy := tidy_fresh
  numbered := rfl
  kinds _ h := absurd h List.not_mem_nil
  fired _ h := absurd h List.not_mem_nil
  once _ h := absurd h List.not_mem_nil

/-- Every number that was handed out is one of the first `lastId`. -/
theorem le_lastId (h : Accounted issued history p) {id : TimerId} {kind : TimerKind}
    (hid : (id, kind) ∈ issued) : id.value ≤ p.state.lastId := by
  have hmem : id.value ∈ List.range' 1 p.state.lastId := by
    rw [← h.numbered]
    exact List.mem_map_of_mem (f := (·.1.value)) hid
  rw [List.mem_range'_1] at hmem
  omega

/-- No number was handed out twice, so it stands for one kind. -/
theorem kind_unique (h : Accounted issued history p) {id : TimerId} {kind kind' : TimerKind}
    (hid : (id, kind) ∈ issued) (hid' : (id, kind') ∈ issued) : kind = kind' := by
  have hnodup : (issued.map (·.1.value)).Nodup := h.numbered ▸ List.nodup_range'
  exact congrArg Prod.snd (List.inj_on_of_nodup_map hnodup hid hid' rfl)

/-- The next number was not started under, and nothing waits under it. -/
theorem next_unused (h : Accounted issued history p) :
    (firings history).countP (·.1.id == ⟨p.state.lastId + 1⟩) = 0 ∧
      p.state.queue.countP (·.id == ⟨p.state.lastId + 1⟩) = 0 := by
  rw [List.countP_eq_zero, List.countP_eq_zero]
  refine ⟨fun s hs he => ?_, fun t ht he => ?_⟩
  · have hle := h.le_lastId (h.fired s hs)
    rw [beq_iff_eq.mp he] at hle
    exact Nat.not_succ_le_self _ hle
  · have hle := h.le_lastId (h.kinds t (mem_held.mpr (Or.inl ht)))
    rw [beq_iff_eq.mp he] at hle
    exact Nat.not_succ_le_self _ hle

/-- A timer that is scheduled is accounted for under the next number. -/
theorem schedule {clock : VirtualClock α} {us : List (UnderWay α)}
    (h : Accounted issued history ⟨clock, us⟩) (kind : TimerKind) (callback : α) (delay : Duration) :
    Accounted (issued ++ [(⟨clock.lastId + 1⟩, kind)])
      (history ++ [.scheduled ⟨clock.lastId + 1⟩])
      ⟨(clock.schedule kind callback delay).2, us⟩ := by
  have hbeat : Beat True ⟨clock, us⟩ (.scheduled ⟨clock.lastId + 1⟩)
      ⟨(clock.schedule kind callback delay).2, us⟩ := .schedule kind callback delay
  have hkind : (clock.scheduledTimer kind callback delay).kind = kind := by cases kind <;> rfl
  obtain ⟨hunstarted, hunqueued⟩ := h.next_unused
  refine ⟨h.tidy.beat hbeat, ?_, ?_, ?_, ?_⟩
  · rw [List.map_append, h.numbered, schedule_lastId, List.range'_concat, Nat.one_mul, Nat.add_comm 1]
    rfl
  · intro t ht
    rcases List.mem_cons.mp ht with rfl | ht
    · refine List.mem_append_right _ (List.mem_singleton.mpr ?_)
      exact Prod.ext rfl hkind
    · exact List.mem_append_left _ (h.kinds t ht)
  · rw [firings_unfired history rfl]
    exact fun s hs => List.mem_append_left _ (h.fired s hs)
  · intro id hid
    rw [firings_unfired history rfl, schedule_queue, List.countP_cons]
    rcases List.mem_append.mp hid with hid | hid
    · have hne : ¬ ((clock.scheduledTimer kind callback delay).id == id) = true := by
        intro he
        have hle := h.le_lastId hid
        rw [← beq_iff_eq.mp he] at hle
        exact Nat.not_succ_le_self _ hle
      rw [if_neg hne]
      exact h.once id hid
    · obtain ⟨rfl, -⟩ := Prod.mk.inj (List.mem_singleton.mp hid)
      have hadd : ∀ waiting, (firings history).countP (·.1.id == ⟨clock.lastId + 1⟩) = 0 →
          clock.queue.countP (·.id == ⟨clock.lastId + 1⟩) = 0 → waiting ≤ 1 →
          (firings history).countP (·.1.id == ⟨clock.lastId + 1⟩) +
            (clock.queue.countP (·.id == ⟨clock.lastId + 1⟩) + waiting) ≤ 1 := by omega
      exact hadd _ hunstarted hunqueued (by split <;> omega)

/-- Fewer timers are no less accounted for. -/
theorem of_sublist (h : Accounted issued history p) {x : Happening α} (hx : x.fired? = none)
    (hq : Tidy q) (hid : q.state.lastId = p.state.lastId) (hheld : held q ⊆ held p)
    (hqueue : q.state.queue.Sublist p.state.queue) : Accounted issued (history ++ [x]) q where
  tidy := hq
  numbered := hid ▸ h.numbered
  kinds t ht := h.kinds t (hheld ht)
  fired := by
    rw [firings_unfired history hx]
    exact h.fired
  once id hid := by
    rw [firings_unfired history hx]
    exact Nat.le_trans (Nat.add_le_add_left hqueue.countP_le _) (h.once id hid)

/-- A timer that is started no longer waits. -/
theorem start {clock : VirtualClock α} {us : List (UnderWay α)} {goal : Goal} {left ran : Nat}
    {timer : QueuedTimer α} (h : Accounted issued history ⟨clock, us⟩)
    (hnext : clock.next? goal.deadline = some timer) (now : Nat)
    (hq : Tidy ⟨clock.start timer, ⟨goal, left, ran, timer⟩ :: us⟩) :
    Accounted issued (history ++ [.started timer now])
      ⟨clock.start timer, ⟨goal, left, ran, timer⟩ :: us⟩ := by
  have hmem : timer ∈ clock.queue := (next?_spec hnext).1
  have horders : (clock.queue.map (·.order)).Nodup :=
    h.tidy.orders.sublist ((List.sublist_append_left _ _).map _)
  have hperm : (held ⟨clock.start timer, ⟨goal, left, ran, timer⟩ :: us⟩).Perm (held ⟨clock, us⟩) :=
    start_perm (u := ⟨goal, left, ran, timer⟩) hmem horders
  refine ⟨hq, h.numbered, fun t ht => h.kinds t (hperm.subset ht), ?_, ?_⟩
  · intro s hs
    rw [firings_started] at hs
    rcases List.mem_append.mp hs with hs | hs
    · exact h.fired s hs
    · rw [List.mem_singleton.mp hs]
      exact h.kinds timer (mem_held.mpr (Or.inl hmem))
  · intro id hid
    have hcount : clock.queue.countP (·.id == id) =
        (timer :: (clock.start timer).queue).countP (·.id == id) :=
      (perm_filter_order hmem horders).countP_eq _
    have honce := h.once id hid
    rw [hcount, List.countP_cons] at honce
    rw [firings_started, List.countP_append, List.countP_singleton, Nat.add_assoc]
    rw [Nat.add_comm (List.countP _ (clock.start timer).queue)] at honce
    exact honce

/-- What a return puts back into the queue repeats. -/
theorem finish {clock : VirtualClock α} {u : UnderWay α} {us : List (UnderWay α)}
    (h : Accounted issued history ⟨clock, u :: us⟩) (hq : Tidy ⟨clock.finish u.timer, us⟩) :
    Accounted issued (history ++ [.returned u.timer]) ⟨clock.finish u.timer, us⟩ := by
  have hu : (u.timer.id, u.timer.kind) ∈ issued :=
    h.kinds u.timer (mem_held.mpr (Or.inr ⟨u, List.mem_cons_self, rfl⟩))
  rcases finish_cases u.timer clock with ⟨hrest, -⟩ | ⟨period, hperiod, -, hqueue, -⟩
  · rw [hrest] at hq ⊢
    exact h.of_sublist rfl hq rfl over_sublist.subset (.refl _)
  · have hrepeats : u.timer.kind = .repeating := by rw [QueuedTimer.kind, hperiod]
    rw [hrepeats] at hu
    refine ⟨hq, ?_, ?_, ?_, ?_⟩
    · rw [finish_lastId]
      exact h.numbered
    · intro t ht
      rw [held, hqueue] at ht
      rcases List.mem_cons.mp ht with rfl | ht
      · exact hu
      · exact h.kinds t (over_sublist.subset ht)
    · rw [firings_unfired history rfl]
      exact h.fired
    · intro id hid
      have hne : ¬ ((clock.rearmed u.timer period).id == id) = true := by
        intro he
        obtain rfl : u.timer.id = id := beq_iff_eq.mp he
        cases h.kind_unique hid hu
      rw [firings_unfired history rfl, hqueue, List.countP_cons, if_neg hne]
      exact h.once id hid

/-- Whatever happens but a scheduling leaves the numbers as they are. -/
theorem beat {nests : Prop} {x : Happening α} (h : Accounted issued history p)
    (b : Beat nests p x q) (hx : ∀ id, x ≠ .scheduled id) : Accounted issued (history ++ [x]) q := by
  have hq : Tidy q := h.tidy.beat b
  cases b with
  | schedule => exact absurd rfl (hx _)
  | cancel id =>
      refine h.of_sublist rfl hq rfl ?_ List.filter_sublist
      exact (List.filter_sublist.append_right _).subset
  | start hnext => exact h.start hnext _ hq
  | reach => exact h.of_sublist rfl hq (by simp) (by simp [held]) (by simp)
  | finish => exact h.finish hq
  | abandon => exact h.of_sublist rfl hq rfl over_sublist.subset (.refl _)

theorem beats {nests : Prop} {later : List (Happening α)} (h : Accounted issued history p)
    (b : Beats nests p later q) (hlater : ∀ id, .scheduled id ∉ later) :
    Accounted issued (history ++ later) q := by
  induction b with
  | refl =>
      rw [List.append_nil]
      exact h
  | snoc _ b ih =>
      rw [← List.append_assoc]
      refine Accounted.beat (ih fun id hid => hlater id (List.mem_append_left _ hid)) b ?_
      rintro id rfl
      exact hlater id (List.mem_append_right _ List.mem_cons_self)

end Accounted

/-! ## Numbers and contacts -/

/-- The number that serving a contact hands out, and the kind of the timer. -/
def issuedBy? (p : Place α) : Contact TimerId α → Option (TimerId × TimerKind)
  | .ask (.schedule kind _ _) => some (⟨p.state.lastId + 1⟩, kind)
  | _ => none

theorem not_scheduled_of_contact (limit : Nat) {c : Contact TimerId α} {p : Place α}
    (hc : issuedBy? p c = none) (id : TimerId) : .scheduled id ∉ happenings limit c p := by
  obtain ⟨clock, us⟩ := p
  cases c with
  | ask request =>
      cases request with
      | schedule kind callback delay => cases hc
      | clear kind id => simp [happenings]
      | drain drain => exact not_scheduled_of_drain
  | ended ended =>
      cases us with
      | nil => cases ended <;> exact List.not_mem_nil
      | cons u us =>
          cases ended with
          | returned =>
              intro hmem
              rcases List.mem_cons.mp hmem with he | hmem
              · cases he
              · exact not_scheduled_of_drain hmem
          | thrown => simp [happenings]

/-- All timers stay accounted for when the clock serves a contact. -/
theorem Accounted.serve (limit : Nat) {issued : List (TimerId × TimerKind)}
    {history : List (Happening α)} {c : Contact TimerId α} {p : Place α}
    (h : Accounted issued history p) (hp : p.InTime) :
    Accounted (issued ++ (issuedBy? p c).toList) (history ++ happenings limit c p)
      ((provider limit).serve c p) := by
  cases hc : issuedBy? p c with
  | none =>
      rw [Option.toList_none, List.append_nil]
      have hbeats : Beats True p (happenings limit c p) ((provider limit).serve c p) :=
        serve_beats limit hp (Or.inr trivial)
      exact h.beats hbeats (not_scheduled_of_contact limit hc)
  | some number =>
      obtain ⟨clock, us⟩ := p
      match c, hc with
      | .ask (.schedule kind callback delay), hc =>
          cases hc
          exact h.schedule kind callback delay

end VirtualClock

/-! ## What the log tells of the numbers -/

namespace ClockMachine

variable {limit : Nat} {c : Option (Contact TimerId (Handler TimerId))} {m m' : ClockMachine}

theorem issued_settle {world : World (VirtualClock (Handler TimerId)) TimerId}
    {w : Waiting (VirtualClock.UnderWay (Handler TimerId)) TimerId}
    {stack : List (Waiting (VirtualClock.UnderWay (Handler TimerId)) TimerId ×
      VirtualClock.UnderWay (Handler TimerId))}
    {move : Move (VirtualClock (Handler TimerId)) (VirtualClock.UnderWay (Handler TimerId)) TimerId
      (Handler TimerId)} (hmove : ∀ id, move.outcome ≠ .answer (.ok (.scheduled id))) :
    (Machine.settle (VirtualClock.provider limit) world w stack move).world.log.filterMap
      Entry.issued? = world.log.filterMap Entry.issued? := by
  unfold Machine.settle
  cases houtcome : move.outcome with
  | rethrow => rfl
  | invoke firing suspended => exact List.filterMap_cons_none rfl
  | answer result =>
      have hentry : (Entry.did w.caller w.action (.answered result)).issued? = none := by
        match result with
        | .ok (.scheduled id) => exact absurd houtcome (hmove id)
        | .ok (.cleared _) | .ok (.ran _) | .error _ => cases w.action <;> rfl
      refine (List.filterMap_cons_none hentry).trans ?_
      cases w.watched <;> simp

theorem proceed_unscheduled (goal : VirtualClock.Goal) (left ran : Nat)
    (clock : VirtualClock (Handler TimerId)) (id : TimerId) :
    (VirtualClock.proceed goal left ran clock).outcome ≠ .answer (.ok (.scheduled id)) := by
  unfold VirtualClock.proceed
  split
  · simp
  · split <;> simp

/-- The log records the numbers that the clock hands out, and no others. -/
theorem issued_of_course (h : Machine.Course (VirtualClock.provider limit) m c m') :
    m'.world.log.filterMap Entry.issued? =
      (c.bind (VirtualClock.issuedBy? m.site)).toList ++ m.world.log.filterMap Entry.issued? := by
  cases h with
  | stays | halts | throws => rfl
  | @did world world' caller action result rest stack hplan =>
      have hentry : (Entry.did caller action result).issued? = none := by
        cases action with
        | schedule route kind delay name handler => cases hplan
        | _ => rfl
      rw [← (Machine.plan_finish hplan).2]
      exact List.filterMap_cons_none hentry
  | ended world control frame stack ended =>
      refine issued_settle fun id => ?_
      cases ended with
      | returned => exact proceed_unscheduled _ _ _ _ id
      | thrown => exact fun he => by cases he
  | @asked world caller action request watched rest stack hplan =>
      rcases Machine.plan_ask hplan with ⟨route, kind, delay, name, handler, rfl, rfl, -⟩ |
        ⟨_, kind, _, id, _, _, rfl, -⟩ | ⟨drain, _, rfl, -⟩
      · have hentry : (Entry.did caller (.schedule route kind delay name handler)
            (.answered (.ok (.scheduled ⟨world.provider.lastId + 1⟩)))).issued? =
            some (⟨world.provider.lastId + 1⟩, kind) := rfl
        refine (List.filterMap_cons_some hentry).trans ?_
        cases watched <;> simp [VirtualClock.issuedBy?, Machine.site]
      · exact issued_settle fun _ he => by cases he
      · refine issued_settle fun id => ?_
        simp only [VirtualClock.provider, VirtualClock.ask]
        split
        · exact fun he => by cases he
        · exact proceed_unscheduled _ _ _ _ id

end ClockMachine

/-! ## Whole runs -/

namespace ClockSession

/-- The numbers that were handed out, each with the kind of its timer, in the
order of the calls. -/
def issued (s : ClockSession) : List (TimerId × TimerKind) :=
  (s.machine.world.log.filterMap Entry.issued?).reverse

/-- How often the callback of a timer was started. -/
def timesStarted (id : TimerId) (s : ClockSession) : Nat :=
  (s.machine.world.log.filterMap Entry.start?).countP (·.1.id == some id)

variable (limit : Nat)

theorem issued_step (s : ClockSession) :
    issued (Session.step (VirtualClock.provider limit) s) =
      s.issued ++ ((s.contact? limit).bind (VirtualClock.issuedBy? (Session.site s))).toList := by
  have hcourse := ClockMachine.issued_of_course
    (s.machine.course_step (P := VirtualClock.provider limit))
  have hreverse : ∀ number : Option (TimerId × TimerKind), number.toList.reverse = number.toList := by
    rintro (_ | _) <;> rfl
  unfold Session.step
  split
  · rw [issued, hcourse, List.reverse_append, hreverse]
    rfl
  · next hended _ =>
    rw [contact?, Session.contact?_of_ended (by rw [hended]; rfl)]
    exact (List.append_nil _).symm
  · next hended _ =>
    rw [contact?, Session.contact?_of_ended (by rw [hended]; rfl)]
    exact (List.append_nil _).symm

/-- A step of a session keeps all timers accounted for. -/
theorem accounted_step {s : ClockSession} {history : List (Happening (Handler TimerId))}
    (hs : s.machine.Settled) (hp : VirtualClock.Place.InTime (Session.site s))
    (h : VirtualClock.Accounted s.issued history (Session.site s)) :
    VirtualClock.Accounted (issued (Session.step (VirtualClock.provider limit) s))
      (history ++ s.happenings limit)
      (Session.site (Session.step (VirtualClock.provider limit) s)) := by
  rw [issued_step, Session.site_step hs, happenings, ClockMachine.happenings, contact?,
    Session.contact?]
  cases s.machine.contact? (VirtualClock.provider limit) with
  | none =>
      rw [ClockMachine.happeningsOn, Option.bind_none, Option.toList_none, List.append_nil,
        List.append_nil]
      exact h
  | some c => exact h.serve limit hp

/-- Throughout a run all timers are accounted for. -/
theorem accounted_after (globals : Globals) (actions : List (Action TimerId)) (n : Nat) :
    VirtualClock.Accounted ((fresh globals actions).after limit n).issued
      ((fresh globals actions).history limit n)
      (Session.site ((fresh globals actions).after limit n)) := by
  induction n with
  | zero => exact .fresh
  | succ n ih =>
      have hbeats : VirtualClock.Beats True ⟨.fresh, []⟩ ((fresh globals actions).history limit n)
          (Session.site ((fresh globals actions).after limit n)) :=
        beats_after limit globals actions n (Or.inr trivial)
      refine accounted_step limit (Session.settled_after (Session.settled_start _ _) n) ?_ ih
      exact hbeats.invariant (fun _ _ _ hp b => hp.beat b) fun _ hu => absurd hu List.not_mem_nil

/-- The log tells how often a timer was started. -/
theorem timesStarted_after (globals : Globals) (actions : List (Action TimerId)) (n : Nat)
    (id : TimerId) : ((fresh globals actions).after limit n).timesStarted id =
      (firings ((fresh globals actions).history limit n)).countP (·.1.id == id) := by
  rw [timesStarted, ← List.countP_reverse, log_starts]
  have hstarts : ((fresh globals actions).history limit n).filterMap Happening.start? =
      (firings ((fresh globals actions).history limit n)).map fun s => (s.1.firing, s.2) := by
    rw [firings, List.map_filterMap]
    rfl
  rw [hstarts, List.countP_map]
  rfl

/-- **No timer is duplicated.**  In every state of every run, whatever the
callbacks do: the timers that wait have numbers of their own, among those that
were handed out, and places of their own; none of them is a timer whose
callback is under way, and no callback is under way twice; scheduling has
returned the numbers 1, 2, 3, … in the order of the calls; and the callback of
a timer that was scheduled to fire once was started once at most. -/
theorem no_timer_twice (globals : Globals) (actions : List (Action TimerId)) (n : Nat) :
    let s := (fresh globals actions).after limit n
    (s.clock.queue.map (·.id)).Nodup ∧
    (∀ t ∈ s.clock.queue, 1 ≤ t.id.value ∧ t.id.value ≤ s.clock.lastId) ∧
    (s.clock.queue.map (·.order)).Nodup ∧
    (∀ t ∈ s.clock.queue, t.order ≤ s.clock.lastOrder) ∧
    (∀ u ∈ s.underWay, ∀ t ∈ s.clock.queue, t.id ≠ u.id) ∧
    (s.underWay.map (·.id)).Nodup ∧
    s.issued.map (·.1.value) = List.range' 1 s.clock.lastId ∧
    ∀ id, (id, TimerKind.once) ∈ s.issued → s.timesStarted id ≤ 1 := by
  intro s
  have h := accounted_after limit globals actions n
  have hheld : VirtualClock.held (Session.site s) = s.clock.queue ++ s.underWay := by
    simp [VirtualClock.held, Session.site, Machine.site, clock, underWay]
  have hids := h.tidy.ids
  have horders := h.tidy.orders
  rw [hheld, List.map_append] at hids horders
  obtain ⟨hqueue, hunderWay, hapart⟩ := List.nodup_append.mp hids
  have hwaits : ∀ t ∈ s.clock.queue, t ∈ VirtualClock.held (Session.site s) :=
    fun t ht => VirtualClock.mem_held.mpr (Or.inl ht)
  refine ⟨hqueue, fun t ht => h.tidy.issued t (hwaits t ht), (List.nodup_append.mp horders).1,
    fun t ht => h.tidy.placed t (hwaits t ht), fun u hu t ht => ?_, hunderWay, h.numbered,
    fun id hid => ?_⟩
  · exact hapart t.id (List.mem_map_of_mem ht) u.id (List.mem_map_of_mem hu)
  · rw [timesStarted_after]
    exact Nat.le_trans (Nat.le_add_right _ _) (h.once id hid)

end ClockSession

end PageTimers
