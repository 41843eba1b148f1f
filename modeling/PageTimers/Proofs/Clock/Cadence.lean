/-
# The cadence of a repeating timer

A repeating timer that was scheduled at clock `s` with period `p` has its
`k`-th turn, counted from zero, at

    s + (k + 1) * p      and not after the last instant

and where callbacks do not drain, nothing that happens meanwhile puts it out
of step (`InStep`): the turns that were taken are the first ones, each of
them at its time, and the timer that waits or runs is the turn that comes
next.  Only three beats are about the timer at all.  Its start is on time, by
`Chronological`; its return arms it for the time it was due and one period,
which is the time of the turn after it; and a clear takes it away.

That it still waits when it was neither cleared nor thrown out is the other
half; there the answer that a clear would get is the argument
(`stoppable_iff_unspent`).  A drain that has come to its end leaves nothing
that is due, so the clock lies between the last turn taken and the next one,
and this says how many turns were taken.

At the last instant the turns meet: every turn from there on is at the same
time as the one before it (`interval_advances_until_the_end`).
-/
import PageTimers.Proofs.Clock.Clearing

namespace PageTimers

/-- The firings of a timer that a log records, in order. -/
def firingsOf {ι : Type} [DecidableEq ι] (id : ι) (log : List (Entry ι)) :
    List (Firing ι (Handler ι) × Nat) :=
  (log.filterMap Entry.start?).reverse.filter (·.1.id == some id)

/-- The firings of a timer in a history. -/
def turnsOf {α : Type} (id : TimerId) (history : List (Happening α)) :
    List (Firing TimerId α × Nat) :=
  (history.filterMap Happening.start?).filter (·.1.id == some id)

section TurnsOf

variable {α : Type} {id : TimerId} {history : List (Happening α)} {x : Happening α}

theorem turnsOf_append_of_other (hx : x.subject? ≠ some id) :
    turnsOf id (history ++ [x]) = turnsOf id history := by
  rw [turnsOf, List.filterMap_append, List.filter_append]
  cases x with
  | started t now =>
      have hne : ¬ t.id = id := fun he => hx (congrArg some he)
      simp [turnsOf, Happening.start?, Happening.fired?, QueuedTimer.firing, hne]
  | scheduled | cleared | returned | threw | reached => exact List.append_nil _

theorem turnsOf_append_unfired (hx : x.fired? = none) :
    turnsOf id (history ++ [x]) = turnsOf id history := by
  have hstart : x.start? = none := by rw [Happening.start?, hx]; rfl
  rw [turnsOf, List.filterMap_append, List.filterMap_cons_none hstart]
  exact congrArg _ (List.append_nil _)

theorem turnsOf_append_started (t : QueuedTimer α) (now : Nat) :
    turnsOf t.id (history ++ [.started t now]) = turnsOf t.id history ++ [(t.firing, now)] := by
  simp [turnsOf, Happening.start?, Happening.fired?, QueuedTimer.firing]

end TurnsOf

/-- A repeating timer, as it was scheduled. -/
structure Cadence (α : Type) where
  id : TimerId
  since : Nat
  period : Nat
  callback : α
  /-- One instant would never end otherwise. -/
  pos : 0 < period

namespace Cadence

variable {α : Type} (c : Cadence α)

/-- When a turn comes due. -/
def dueAt (k : Nat) : Nat := saturatingAdd c.since ((k + 1) * c.period)

/-- A turn in the queue, or under way. -/
def turn (k order : Nat) : QueuedTimer α := ⟨c.id, c.dueAt k, order, some c.period, c.callback, k⟩

theorem dueAt_succ (k : Nat) : saturatingAdd (c.dueAt k) c.period = c.dueAt (k + 1) := by
  unfold dueAt saturatingAdd
  rw [Nat.succ_mul (k + 1)]
  omega

/-- Turns come one after the other, except at the last instant. -/
theorem dueAt_lt_iff {j k : Nat} (hjk : j < k) :
    c.dueAt j < c.dueAt k ↔ c.dueAt j < Duration.lastInstant := by
  have hpos := c.pos
  have hmul : (j + 1) * c.period + c.period ≤ (k + 1) * c.period := by
    rw [← Nat.succ_mul]
    exact Nat.mul_le_mul_right _ (Nat.succ_le_succ hjk)
  unfold dueAt saturatingAdd
  omega

/-- Before the end of time, how many turns are past says which one is next. -/
theorem eq_div {now count : Nat} (hend : now < Duration.lastInstant)
    (hpast : ∀ k < count, c.dueAt k ≤ now) (hnext : now < c.dueAt count) :
    count = (now - c.since) / c.period := by
  have hbelow : now < c.since + (count + 1) * c.period := (Nat.lt_min.mp hnext).1
  rw [Nat.succ_mul] at hbelow
  have hpos := c.pos
  have habove : count * c.period ≤ now - c.since := by
    cases count with
    | zero => rw [Nat.zero_mul]; exact Nat.zero_le _
    | succ k =>
        have hle := hpast k (Nat.lt_succ_self k)
        unfold dueAt saturatingAdd at hle
        omega
  refine (Nat.div_eq_of_lt_le habove ?_).symm
  rw [Nat.succ_mul]
  omega

end Cadence

namespace VirtualClock

variable {α : Type} {c : Cadence α} {count : Nat} {before later : List (Happening α)}
  {p q : Place α}

/-- The timer has taken its first `count` turns, each on time, and what is
left of it is the next one. -/
structure InStep (c : Cadence α) (count : Nat) (history : List (Happening α)) (p : Place α) :
    Prop where
  issued : c.id.value ≤ p.state.lastId
  taken : turnsOf c.id history =
    (List.range count).map fun k => (⟨some c.id, c.callback, k⟩, c.dueAt k)
  waiting : ∀ t ∈ p.state.queue, t.id = c.id → t = c.turn count t.order
  /-- The turn under way is the last one taken. -/
  underWay : ∀ u ∈ p.suspended, u.timer.id = c.id →
    ∃ k, count = k + 1 ∧ u.timer = c.turn k u.timer.order
  repeats : ∀ t now, .started t now ∈ history → t.id = c.id → t.kind = .repeating

namespace InStep

theorem repeats_append {x : Happening α} (h : InStep c count before p) (hx : x.fired? = none) :
    ∀ t now, .started t now ∈ before ++ [x] → t.id = c.id → t.kind = .repeating := by
  intro t now ht hid
  rcases List.mem_append.mp ht with ht | ht
  · exact h.repeats t now ht hid
  · cases List.mem_singleton.mp ht
    cases hx

/-- Fewer timers, and a happening that starts none. -/
theorem of_subset {x : Happening α} (h : InStep c count before p) (hx : x.fired? = none)
    (hissued : c.id.value ≤ q.state.lastId)
    (hqueue : ∀ t ∈ q.state.queue, t.id = c.id → t ∈ p.state.queue)
    (hus : q.suspended ⊆ p.suspended) : InStep c count (before ++ [x]) q where
  issued := hissued
  taken := by rw [turnsOf_append_unfired hx, h.taken]
  waiting t ht hid := h.waiting t (hqueue t ht hid) hid
  underWay u hu hid := h.underWay u (hus hu) hid
  repeats := h.repeats_append hx

/-- A turn is taken when it is due, or it is some other timer's. -/
theorem start {clock : VirtualClock α} {goal : Goal} (left ran : Nat) {timer : QueuedTimer α}
    (h : InStep c count before ⟨clock, []⟩) (hordered : Chronological before ⟨clock, []⟩)
    (hnext : clock.next? goal.deadline = some timer)
    (halone : ∀ t ∈ (clock.start timer).queue, t.id ≠ timer.id) :
    ∃ count', InStep c count' (before ++ [.started timer (clock.start timer).now])
      ⟨clock.start timer, [⟨goal, left, ran, timer⟩]⟩ := by
  have hqueue : ∀ t ∈ (clock.start timer).queue, t ∈ clock.queue := fun t ht =>
    ((mem_start_queue timer clock).mp ht).1
  have hrepeats (hkind : timer.id = c.id → timer.kind = .repeating) : ∀ t now,
      .started t now ∈ before ++ [.started timer (clock.start timer).now] → t.id = c.id →
        t.kind = .repeating := by
    intro t now ht hid
    rcases List.mem_append.mp ht with ht | ht
    · exact h.repeats t now ht hid
    · cases List.mem_singleton.mp ht
      exact hkind hid
  have hwaits : timer ∈ clock.queue := (next?_spec hnext).1
  by_cases hid : timer.id = c.id
  · have hturn : timer = c.turn count timer.order := h.waiting timer hwaits hid
    have hdue : timer.dueAt = c.dueAt count := congrArg QueuedTimer.dueAt hturn
    have hfiring : timer.firing = ⟨some c.id, c.callback, count⟩ :=
      congrArg QueuedTimer.firing hturn
    have hkind : timer.kind = .repeating := congrArg QueuedTimer.kind hturn
    refine ⟨count + 1, h.issued, ?_, ?_, ?_, hrepeats fun _ => hkind⟩
    · rw [← hid, turnsOf_append_started, hid, h.taken, hordered.start_on_time hnext, hdue, hfiring,
        List.range_succ, List.map_append]
      rfl
    · exact fun t ht htid => absurd (htid.trans hid.symm) (halone t ht)
    · intro u hu _
      rw [List.mem_singleton] at hu
      subst hu
      exact ⟨count, rfl, hturn⟩
  · have hother : (Happening.started timer (clock.start timer).now).subject? ≠ some c.id :=
      fun he => hid (Option.some.inj he)
    refine ⟨count, h.issued, ?_, fun t ht => h.waiting t (hqueue t ht), ?_,
      hrepeats fun he => absurd he hid⟩
    · rw [turnsOf_append_of_other hother, h.taken]
    · intro u hu huid
      rw [List.mem_singleton] at hu
      subst hu
      exact absurd huid hid

/-- A turn that has returned is armed for the next one. -/
theorem finish {clock : VirtualClock α} {u : UnderWay α} {us : List (UnderWay α)}
    (h : InStep c count before ⟨clock, u :: us⟩) :
    InStep c count (before ++ [.returned u.timer]) ⟨clock.finish u.timer, us⟩ := by
  rcases finish_cases u.timer clock with ⟨hrest, -⟩ | ⟨period, hperiod, -, hqueue, -⟩
  · rw [hrest]
    exact h.of_subset rfl h.issued (fun _ ht _ => ht) (List.subset_cons_self _ _)
  · have hissued : c.id.value ≤ (clock.finish u.timer).lastId := by
      rw [finish_lastId]
      exact h.issued
    refine ⟨hissued, ?_, ?_, fun v hv => h.underWay v (List.mem_cons_of_mem _ hv),
      h.repeats_append rfl⟩
    · rw [turnsOf_append_unfired rfl, h.taken]
    · rw [hqueue]
      intro t ht hid
      rcases List.mem_cons.mp ht with rfl | ht
      · obtain ⟨k, rfl, hturn⟩ := h.underWay u List.mem_cons_self hid
        have hp : period = c.period := by
          rw [hturn] at hperiod
          exact (Option.some.inj hperiod).symm
        rw [rearmed, hp, hturn]
        simp [Cadence.turn, Cadence.dueAt_succ]
      · exact h.waiting t ht hid

/-- Nothing that happens puts a timer out of step, where drains do not nest. -/
theorem beat {x : Happening α} (h : InStep c count before p) (hordered : Chronological before p)
    (htidy : Tidy p) (b : Beat False p x q) : ∃ count', InStep c count' (before ++ [x]) q := by
  have hb := b
  cases b with
  | @schedule clock us kind callback delay =>
      refine ⟨count, h.of_subset rfl (Nat.le_succ_of_le h.issued) ?_ (List.Subset.refl _)⟩
      intro t ht hid
      rcases List.mem_cons.mp ht with rfl | ht
      · -- the number is new
        have hissued := h.issued
        rw [← hid] at hissued
        exact absurd hissued (Nat.not_succ_le_self _)
      · exact ht
  | @cancel clock us id =>
      refine ⟨count, h.of_subset rfl h.issued ?_ (List.Subset.refl _)⟩
      exact fun t ht _ => ((mem_cancel_queue id clock).mp ht).1
  | @start clock us goal left ran timer hnext _ hus =>
      obtain rfl := hus.resolve_right id
      refine h.start left ran hordered hnext fun t ht => ?_
      exact (htidy.beat hb).innermost_id t (List.mem_append_left _ ht)
  | @reach clock us goal _ _ _ =>
      have hissued : c.id.value ≤ (clock.reach goal).lastId := by
        rw [reach_lastId]
        exact h.issued
      refine ⟨count, h.of_subset rfl hissued ?_ (List.Subset.refl _)⟩
      rw [reach_queue]
      exact fun t ht _ => ht
  | finish => exact ⟨count, h.finish⟩
  | abandon =>
      exact ⟨count, h.of_subset rfl h.issued (fun _ ht _ => ht) (List.subset_cons_self _ _)⟩

theorem beats (h : InStep c count before p) (hbefore : Beats False ⟨.fresh, []⟩ before p)
    (hlater : Beats False p later q) : ∃ count', InStep c count' (before ++ later) q := by
  induction hlater with
  | refl =>
      rw [List.append_nil]
      exact ⟨count, h⟩
  | @snoc q r since x hsince b ih =>
      obtain ⟨count', ih⟩ := ih
      have hall : Beats False ⟨.fresh, []⟩ (before ++ since) q := hbefore.append hsince
      rw [← List.append_assoc]
      exact ih.beat (.beats hall) (tidy_fresh.beats hall) b

/-- When it is scheduled, the first turn waits. -/
theorem scheduled {clock : VirtualClock α} {us : List (UnderWay α)}
    (hbefore : Beats False ⟨.fresh, []⟩ before ⟨clock, us⟩) (callback : α) (delay : Duration) :
    InStep ⟨⟨clock.lastId + 1⟩, clock.now, max delay.millis 1, callback, Nat.le_max_right _ _⟩ 0
      (before ++ [.scheduled ⟨clock.lastId + 1⟩])
      ⟨(clock.schedule .repeating callback delay).2, us⟩ := by
  have htidy : Tidy ⟨clock, us⟩ := tidy_fresh.beats hbefore
  have hnew : ∀ x ∈ before, x.subject? ≠ some ⟨clock.lastId + 1⟩ := fun x hx hsubject =>
    Nat.not_succ_le_self _ (subject_issued hbefore x hx _ hsubject)
  have hheld : ∀ t ∈ held ⟨clock, us⟩, t.id ≠ ⟨clock.lastId + 1⟩ := fun t ht he => by
    have hissued := (htidy.issued t ht).2
    rw [he] at hissued
    exact Nat.not_succ_le_self _ hissued
  refine ⟨Nat.le_refl _, ?_, ?_, ?_, ?_⟩
  · rw [turnsOf_append_unfired rfl]
    refine List.filter_eq_nil_iff.mpr fun s hs => ?_
    obtain ⟨x, hx, hstart⟩ := List.mem_filterMap.mp hs
    cases x with
    | started t now =>
        cases hstart
        have hne := hnew _ hx
        simpa [Happening.subject?, QueuedTimer.firing] using hne
    | scheduled | cleared | returned | threw | reached => cases hstart
  · intro t ht hid
    rcases List.mem_cons.mp ht with rfl | ht
    · simp [Cadence.turn, Cadence.dueAt, periodOf]
    · exact absurd hid (hheld t (mem_held.mpr (Or.inl ht)))
  · exact fun u hu hid => absurd hid (hheld u.timer (mem_held.mpr (Or.inr ⟨u, hu, rfl⟩)))
  · intro t now ht hid
    rcases List.mem_append.mp ht with ht | ht
    · exact absurd (congrArg some hid) (hnew _ ht)
    · cases List.mem_singleton.mp ht

end InStep

/-! ## The end of a drain -/

/-- The clock is not past the deadline. -/
def Goal.Ahead (goal : Goal) (now : Nat) : Prop :=
  ∀ target, goal.deadline = some target → now ≤ target

theorem Goal.of_ahead {drain : Drain} {now : Nat} {goal : Goal} (h : Goal.of drain now = .ok goal) :
    goal.Ahead now := by
  intro target htarget
  cases drain with
  | advance span =>
      simp only [Goal.of] at h
      split at h
      · cases h
        cases htarget
        exact Nat.le_add_right _ _
      · cases h
  | runDue =>
      cases h
      cases htarget
      exact Nat.le_refl _
  | flush =>
      cases h
      cases htarget

section Proceed

variable {clock : VirtualClock α} {goal : Goal} {left ran : Nat} (hgoal : goal.Ahead clock.now)
include hgoal

/-- A drain starts nothing that is due after its deadline. -/
theorem ahead_of_proceed {firing : Firing TimerId α} {u : UnderWay α}
    (h : (proceed goal left ran clock).outcome = .invoke firing u) :
    u.goal.Ahead (proceed goal left ran clock).state.now := by
  rcases proceed_cases goal left ran clock with
    ⟨-, hmove⟩ | ⟨-, hmove⟩ | ⟨timer, left', hnext, -, hmove⟩ <;> rw [hmove] at h ⊢
  · cases h
  · cases h
  · cases h
    intro target htarget
    have htarget : goal.deadline = some target := htarget
    rw [htarget] at hnext
    exact Nat.max_le.mpr ⟨hgoal target htarget, next?_dueAt_le hnext⟩

/-- A drain that has come to its end leaves nothing that is due. -/
theorem nothing_due_of_proceed {n : Nat}
    (h : (proceed goal left ran clock).outcome = .answer (.ok (.ran n))) :
    ∀ t ∈ (proceed goal left ran clock).state.queue,
      (proceed goal left ran clock).state.now < t.dueAt := by
  rcases proceed_cases goal left ran clock with
    ⟨hnext, hmove⟩ | ⟨-, hmove⟩ | ⟨timer, left', -, -, hmove⟩ <;> rw [hmove] at h ⊢
  · rw [reach_queue]
    intro t ht
    have hdue : t.isDue goal.deadline = false := next?_eq_none_iff.mp hnext t ht
    cases goal with
    | advance delta target =>
        have hle : clock.now ≤ target := hgoal target rfl
        have hlate : target < t.dueAt := by simpa [QueuedTimer.isDue, Goal.deadline] using hdue
        exact Nat.max_lt.mpr ⟨Nat.lt_of_le_of_lt hle hlate, hlate⟩
    | runDue now =>
        have hle : clock.now ≤ now := hgoal now rfl
        have hlate : now < t.dueAt := by simpa [QueuedTimer.isDue, Goal.deadline] using hdue
        exact Nat.lt_of_le_of_lt hle hlate
    | flush => cases hdue
  · cases h
  · cases h

end Proceed

/-- Between drains the clock lies between the last turn taken and the next. -/
theorem InStep.settled {history : List (Happening α)} (h : InStep c count history q)
    (hbeats : Beats False ⟨.fresh, []⟩ history q) (hus : q.suspended = [])
    (hdue : ∀ t ∈ q.state.queue, q.state.now < t.dueAt) (hend : q.state.now < Duration.lastInstant)
    (hunspent : Unspent c.id history) :
    count = (q.state.now - c.since) / c.period ∧
      ∃ order, q.state.queue.filter (·.id == c.id) = [c.turn count order] := by
  have htidy : Tidy q := tidy_fresh.beats hbeats
  -- what a clear would stop waits, as nothing is under way
  have hwaits : c.id ∈ q.state.queue.map (·.id) := by
    refine ((stoppable_iff_unspent hbeats c.id).mpr hunspent).resolve_right fun hrunning => ?_
    obtain ⟨u, us, hsome, -⟩ := htidy.slot _ hrunning
    rw [hus] at hsome
    cases hsome
  obtain ⟨t, ht, hid⟩ := List.mem_map.mp hwaits
  have hturn : t = c.turn count t.order := h.waiting t ht hid
  have hnext : q.state.now < c.dueAt count := by
    have hlt := hdue t ht
    rw [hturn] at hlt
    exact hlt
  have hpast : ∀ k < count, c.dueAt k ≤ q.state.now := by
    intro k hk
    have htaken : (⟨some c.id, c.callback, k⟩, c.dueAt k) ∈ turnsOf c.id history := by
      rw [h.taken]
      exact List.mem_map.mpr ⟨k, List.mem_range.mpr hk, rfl⟩
    obtain ⟨x, hx, hstart⟩ := List.mem_filterMap.mp (List.mem_filter.mp htaken).1
    obtain ⟨s, hs, he⟩ := Option.map_eq_some_iff.mp hstart
    have hfired : s ∈ firings history := List.mem_filterMap.mpr ⟨x, hx, hs⟩
    have hontime : s.2 = s.1.dueAt := (firings_ordered hbeats).2 s hfired
    have hbehind : s.1.dueAt ≤ q.state.now := ((Chronological.beats hbeats).behind s hfired).1
    rw [← hontime, congrArg Prod.snd he] at hbehind
    exact hbehind
  refine ⟨c.eq_div hend hpast hnext, t.order, ?_⟩
  have hids : (q.state.queue.map (·.id)).Nodup :=
    htidy.ids.sublist ((List.sublist_append_left _ _).map _)
  rw [← hid, filter_id_eq_singleton ht hids, ← hturn]

end VirtualClock

namespace Machine

variable {limit : Nat} {m m' : ClockMachine} {c : Option (Contact TimerId (Handler TimerId))}
  {p : Action TimerId → Bool}

/-- The drain under way is not past its deadline; and one that has just come
to its end has left nothing that is due. -/
structure Timely (m : ClockMachine) : Prop where
  ahead : ∀ frame ∈ m.stack, frame.2.goal.Ahead m.world.provider.now
  drained : ∀ caller action n,
    m.world.log.head? = some (.did caller action (.answered (.ok (.ran n)))) →
      m.stack = [] ∧ ∀ t ∈ m.world.provider.queue, m.world.provider.now < t.dueAt

theorem Timely.settle {world : World (VirtualClock (Handler TimerId)) TimerId}
    {w : Waiting (VirtualClock.UnderWay (Handler TimerId)) TimerId}
    {stack : List (Waiting (VirtualClock.UnderWay (Handler TimerId)) TimerId ×
      VirtualClock.UnderWay (Handler TimerId))}
    {move : Move (VirtualClock (Handler TimerId)) (VirtualClock.UnderWay (Handler TimerId)) TimerId
      (Handler TimerId)}
    (hstack : ∀ frame ∈ stack, frame.2.goal.Ahead move.state.now)
    (hanswer : ∀ n, move.outcome = .answer (.ok (.ran n)) →
      stack = [] ∧ ∀ t ∈ move.state.queue, move.state.now < t.dueAt)
    (hinvoke : ∀ firing u, move.outcome = .invoke firing u → u.goal.Ahead move.state.now)
    (hrethrow : move.outcome = .rethrow → ∀ caller action n,
      world.log.head? ≠ some (.did caller action (.answered (.ok (.ran n))))) :
    (Machine.settle (VirtualClock.provider limit) world w stack move).Timely := by
  unfold Machine.settle
  cases hmove : move.outcome with
  | answer result =>
      refine ⟨by simpa using hstack, ?_⟩
      rintro caller action n hhead
      simp only [answered_log, List.head?_cons, Option.some.injEq, Entry.did.injEq,
        Result.answered.injEq] at hhead
      obtain ⟨-, -, rfl⟩ := hhead
      simpa using hanswer n hmove
  | invoke firing u =>
      refine ⟨?_, fun _ _ _ hhead => by cases hhead⟩
      rintro frame hframe
      rcases List.mem_cons.mp hframe with rfl | hframe
      · exact hinvoke firing u hmove
      · exact hstack frame hframe
  | rethrow =>
      exact ⟨hstack, fun caller action n hhead => absurd hhead (hrethrow hmove caller action n)⟩

theorem Timely.course (hp : ∀ drain, p (.drain drain) = false) (hobedient : m.Obedient p)
    (h : m.Timely) (hcourse : Course (VirtualClock.provider limit) m c m') : m'.Timely := by
  cases hcourse with
  | stays | halts | throws => exact ⟨h.ahead, h.drained⟩
  | @did world world' caller action result rest stack hplan =>
      refine ⟨?_, fun _ _ n hhead => ?_⟩
      · have hprovider : world'.provider = world.provider := (plan_finish hplan).1
        simpa [hprovider] using h.ahead
      · cases hhead
        exact absurd rfl (plan_finish_result hplan _)
  | @ended world control frame stack ended =>
      obtain rfl : stack = [] :=
        List.length_eq_zero_iff.mp (Nat.le_zero.mp (Nat.le_of_succ_le_succ hobedient.shallow))
      have hahead : frame.2.goal.Ahead (world.provider.finish frame.2.timer).now := by
        rw [VirtualClock.finish_now]
        exact h.ahead frame List.mem_cons_self
      refine .settle (fun _ hframe => absurd hframe List.not_mem_nil) ?_ ?_ ?_
      · intro n hanswer
        cases ended with
        | returned => exact ⟨rfl, VirtualClock.nothing_due_of_proceed hahead hanswer⟩
        | thrown => cases hanswer
      · intro firing u hinvoke
        cases ended with
        | returned => exact VirtualClock.ahead_of_proceed hahead hinvoke
        | thrown => cases hinvoke
      · -- the drain was under way
        intro _ caller action n hhead
        exact List.cons_ne_nil _ _ (h.drained caller action n hhead).1
  | @asked world caller action request watched rest stack hplan =>
      rcases plan_ask hplan with ⟨_, _, _, _, _, _, rfl, _⟩ | ⟨_, _, _, _, _, _, rfl, _⟩ |
        ⟨drain, rfl, rfl, -⟩
      · exact .settle h.ahead (fun _ ha => by cases ha) (fun _ _ hi => by cases hi)
          fun hr => by cases hr
      · exact .settle h.ahead (fun _ ha => by cases ha) (fun _ _ hi => by cases hi)
          fun hr => by cases hr
      · obtain rfl : stack = [] := by
          rcases (hobedient.control caller (.drain drain :: rest) rfl _ List.mem_cons_self).1 with
            hdrain | ⟨-, hstack⟩
          · rw [hp] at hdrain
            cases hdrain
          · exact hstack
        show (Machine.settle (VirtualClock.provider limit) world _ []
          (VirtualClock.ask limit (.drain drain) world.provider)).Timely
        rcases VirtualClock.ask_drain_cases limit drain world.provider with
          ⟨e, hask⟩ | ⟨goal, hgoal, hask⟩ <;> rw [hask]
        · exact .settle h.ahead (fun _ ha => by cases ha) (fun _ _ hi => by cases hi)
            fun hr => by cases hr
        · have hahead : goal.Ahead world.provider.now := VirtualClock.Goal.of_ahead hgoal
          refine .settle (fun _ hframe => absurd hframe List.not_mem_nil)
            (fun n ha => ⟨rfl, VirtualClock.nothing_due_of_proceed hahead ha⟩)
            (fun firing u hi => VirtualClock.ahead_of_proceed hahead hi) fun hr => ?_
          rcases VirtualClock.proceed_cases goal (VirtualClock.clampLimit limit) 0
              world.provider with
            ⟨-, hmove⟩ | ⟨-, hmove⟩ | ⟨timer, left, -, -, hmove⟩ <;> rw [hmove] at hr <;> cases hr

theorem Timely.load (h : m.Timely) (action : Action TimerId) :
    Timely (Machine.load m.world [action]) where
  ahead _ hframe := absurd hframe List.not_mem_nil
  drained caller action n hhead := ⟨rfl, (h.drained caller action n hhead).2⟩

end Machine

/-! ## Whole runs -/

namespace ClockSession

variable (limit : Nat) (globals : Globals) {actions : List (Action TimerId)}

theorem timely_after (hcalm : ∀ a ∈ actions, a.calm = true) (n : Nat) :
    ((fresh globals actions).after limit n).machine.Timely := by
  have hp : ∀ drain : Drain, (!(Action.drain drain : Action TimerId).isDrain) = false :=
    fun _ => rfl
  have hfresh : (fresh globals actions).machine.Timely :=
    ⟨fun _ h => absurd h List.not_mem_nil, fun _ _ _ h => by cases h⟩
  refine (Session.after_invariant
    (I := fun m => m.Obedient (fun b => !b.isDrain) ∧ m.Timely) ⟨?_, hfresh⟩ ?_ ?_ n).1.2
  · exact obedient_after limit globals hp (obeys_of_calm hcalm) 0
  · exact fun m h => ⟨h.1.course hp m.course_step, h.2.course hp h.1 m.course_step⟩
  · exact fun m h _ action ha => ⟨h.1.load (obeys_of_calm hcalm action ha), h.2.load action⟩

/-- The repeating timer that a call made now would schedule. -/
def cadence (s : ClockSession) (handler : Handler TimerId) (delay : Duration) :
    Cadence (Handler TimerId) :=
  ⟨⟨s.clock.lastId + 1⟩, s.clock.now, max delay.millis 1, handler, Nat.le_max_right _ _⟩

section Scheduled

variable (hcalm : ∀ a ∈ actions, a.calm = true) {m n : Nat} {handler : Handler TimerId}
  {delay : Duration}
  (hschedule : ((fresh globals actions).after limit m).contact? limit =
    some (.ask (.schedule .repeating handler delay)))

include hschedule in
theorem history_of_schedule :
    (fresh globals actions).history limit (m + 1) = (fresh globals actions).history limit m ++
      [.scheduled ⟨((fresh globals actions).after limit m).clock.lastId + 1⟩] :=
  congrArg (_ ++ ·) (happenings_of_contact hschedule)

include hcalm hschedule

/-- From then on it is in step. -/
theorem inStep_after (hn : m < n) :
    ∃ count, VirtualClock.InStep
      (((fresh globals actions).after limit m).cadence handler delay) count
      ((fresh globals actions).history limit n)
      (Session.site ((fresh globals actions).after limit n)) := by
  obtain ⟨k, rfl⟩ := Nat.exists_eq_add_of_lt hn
  have hsite : Session.site ((fresh globals actions).after limit (m + 1)) = _ :=
    Session.site_of_contact hschedule
  have hscheduled : VirtualClock.InStep
      (((fresh globals actions).after limit m).cadence handler delay) 0
      ((fresh globals actions).history limit (m + 1))
      (Session.site ((fresh globals actions).after limit (m + 1))) := by
    rw [hsite, history_of_schedule limit globals hschedule]
    exact .scheduled (beats_of_calm limit globals hcalm m) handler delay
  have hlater := beats_onwards limit globals (fun _ => rfl) (obeys_of_calm hcalm) (m + 1) k
  have h := hscheduled.beats (beats_of_calm limit globals hcalm (m + 1)) hlater
  have hafter : (fresh globals actions).after limit (m + 1 + k) =
      ((fresh globals actions).after limit (m + 1)).after limit k := Session.after_add _ _ _
  rw [Nat.add_right_comm, hafter, history_add]
  exact h

/-- The firings that the log records are the turns, one after the other. -/
theorem firingsOf_after (hn : m < n) :
    ∃ count, VirtualClock.InStep
      (((fresh globals actions).after limit m).cadence handler delay) count
        ((fresh globals actions).history limit n)
        (Session.site ((fresh globals actions).after limit n)) ∧
      firingsOf ⟨((fresh globals actions).after limit m).clock.lastId + 1⟩
          ((fresh globals actions).after limit n).machine.world.log =
        (List.range count).map fun k =>
          (⟨some ⟨((fresh globals actions).after limit m).clock.lastId + 1⟩, handler, k⟩,
            (((fresh globals actions).after limit m).cadence handler delay).dueAt k) := by
  obtain ⟨count, h⟩ := inStep_after limit globals hcalm hschedule hn
  refine ⟨count, h, ?_⟩
  rw [firingsOf, log_starts]
  exact h.taken

end Scheduled

/-- **Repeating timers keep an exact cadence.**  Where no callback drains, a
repeating timer that is scheduled at clock `s` with period `p`, at least one
millisecond, has its firings at `s + p`, `s + 2 * p` and so on, not after the
last instant; these are all of its firings in the log.  And if it was neither
cleared nor thrown out, then after a drain that ended well, at a clock before
the last instant, it has fired once for every whole period that has passed,
and waits once, for its next turn. -/
theorem interval_keeps_cadence (limit : Nat) (globals : Globals) {actions : List (Action TimerId)}
    (hcalm : ∀ a ∈ actions, a.calm = true) (m : Nat) {handler : Handler TimerId} {delay : Duration}
    (hschedule : ((fresh globals actions).after limit m).contact? limit =
      some (.ask (.schedule .repeating handler delay))) :
    let before := (fresh globals actions).after limit m
    let id : TimerId := ⟨before.clock.lastId + 1⟩
    let s := before.clock.now
    let p := max delay.millis 1
    (∃ caller action, ((fresh globals actions).after limit (m + 1)).machine.world.log =
      .did caller action (.answered (.ok (.scheduled id))) :: before.machine.world.log) ∧
    ∀ n, m < n →
      let later := (fresh globals actions).after limit n
      let fired := firingsOf id later.machine.world.log
      fired = (List.range fired.length).map (fun k =>
        (⟨some id, handler, k⟩, min (s + (k + 1) * p) Duration.lastInstant)) ∧
      (.cleared id true ∉ (fresh globals actions).history limit n →
        (∀ t, .threw t ∈ (fresh globals actions).history limit n → t.id ≠ id) →
        ∀ caller drain ran, later.machine.world.log.head? =
          some (.did caller (.drain drain) (.answered (.ok (.ran ran)))) →
        later.clock.now < Duration.lastInstant →
        fired.length = (later.clock.now - s) / p ∧
        ∃ order, later.clock.queue.filter (·.id == id) =
          [⟨id, min (s + ((later.clock.now - s) / p + 1) * p) Duration.lastInstant, order, some p,
            handler, (later.clock.now - s) / p⟩]) := by
  intro before id s p
  refine ⟨Session.log_of_answer hschedule rfl, fun n hn => ?_⟩
  intro later fired
  obtain ⟨count, hstep, hfired⟩ := firingsOf_after limit globals hcalm hschedule hn
  have hfired : fired = (List.range count).map fun k =>
      (⟨some id, handler, k⟩, min (s + (k + 1) * p) Duration.lastInstant) := hfired
  have hlength : fired.length = count := by rw [hfired, List.length_map, List.length_range]
  refine ⟨by rw [hlength]; exact hfired, ?_⟩
  intro hclear hthrow caller drain ran hhead hend
  obtain ⟨hstack, hdue⟩ := (timely_after limit globals hcalm n).drained caller _ ran hhead
  have hissued : .scheduled id ∈ (fresh globals actions).history limit n := by
    obtain ⟨k, rfl⟩ := Nat.exists_eq_add_of_lt hn
    rw [Nat.add_right_comm, history_add, history_of_schedule limit globals hschedule]
    simp [id, before]
  have hunspent : Unspent id ((fresh globals actions).history limit n) :=
    ⟨hissued, hclear, fun t ht => hthrow t ht, hstep.repeats⟩
  obtain ⟨hcount, order, hqueue⟩ := hstep.settled (beats_of_calm limit globals hcalm n)
    (by rw [Session.site, Machine.site, hstack]; rfl) hdue hend hunspent
  have hcount : count = (later.clock.now - s) / p := hcount
  subst hcount
  exact ⟨hlength, order, hqueue⟩

/-- An interval of three milliseconds beside another timer. -/
def stragglerActions : List (Action TimerId) :=
  [.drain (.advance (.ofMillis 1)), .schedule .page .repeating (.ofMillis 3) none .idle,
    .schedule .page .once (.ofMillis 2) none .idle, .drain (.advance (.ofMillis 9)),
    .drain (.advance (.ofMillis 5))]

/-- The second drain comes to its limit of two callbacks. -/
theorem straggler_history :
    (fresh .empty stragglerActions).history 2 18 =
      [.reached 1, .scheduled ⟨1⟩, .scheduled ⟨2⟩, .started ⟨⟨2⟩, 3, 2, none, .idle, 0⟩ 3,
        .returned ⟨⟨2⟩, 3, 2, none, .idle, 0⟩, .started ⟨⟨1⟩, 4, 1, some 3, .idle, 0⟩ 4,
        .returned ⟨⟨1⟩, 4, 1, some 3, .idle, 0⟩, .started ⟨⟨1⟩, 7, 3, some 3, .idle, 1⟩ 7,
        .returned ⟨⟨1⟩, 7, 3, some 3, .idle, 1⟩, .reached 9] := rfl

theorem straggler_keeps_cadence :
    (∀ a ∈ stragglerActions, a.calm = true) ∧
    ((fresh .empty stragglerActions).after 2 5).contact? 2 =
      some (.ask (.schedule .repeating .idle (.ofMillis 3))) ∧
    firingsOf ⟨1⟩ ((fresh .empty stragglerActions).after 2 18).machine.world.log =
      [(⟨some ⟨1⟩, .idle, 0⟩, 4), (⟨some ⟨1⟩, .idle, 1⟩, 7)] ∧
    ∃ order, ((fresh .empty stragglerActions).after 2 18).clock.queue.filter (·.id == ⟨1⟩) =
      [⟨⟨1⟩, 10, order, some 3, .idle, 2⟩] := by
  have hcalm : ∀ a ∈ stragglerActions, a.calm = true := by decide
  have hschedule : ((fresh .empty stragglerActions).after 2 5).contact? 2 =
      some (.ask (.schedule .repeating .idle (.ofMillis 3))) := rfl
  obtain ⟨hfired, hsettled⟩ :=
    (interval_keeps_cadence 2 .empty hcalm 5 hschedule).2 18 (by decide)
  obtain ⟨-, hqueue⟩ := hsettled (by simp [straggler_history]) (by simp [straggler_history])
    .harness (.advance (.ofMillis 5)) 1 rfl (by decide)
  exact ⟨hcalm, hschedule, hfired, hqueue⟩

/-- The turn after the last instant would be the first one of this interval. -/
def belatedActions : List (Action TimerId) :=
  [.drain (.advance (.ofMillis 1)),
    .schedule .page .repeating (.ofMillis 18446744073709551615) none .idle, .drain .flush]

/-- It is scheduled at clock 1, and its firing is not one period later. -/
theorem last_turn_comes_early :
    (∀ a ∈ belatedActions, a.calm = true) ∧
    ((fresh .empty belatedActions).after 1 5).clock.now = 1 ∧
    ((fresh .empty belatedActions).after 1 5).contact? 1 =
      some (.ask (.schedule .repeating .idle (.ofMillis 18446744073709551615))) ∧
    (firingsOf ⟨1⟩ ((fresh .empty belatedActions).after 1 9).machine.world.log).map (·.2) =
      [18446744073709551615] ∧
    18446744073709551615 ≠ 1 + 1 * max (Duration.ofMillis 18446744073709551615).millis 1 :=
  ⟨by decide, rfl, rfl, rfl, by decide⟩

/-- **Only the last instant can hold two turns.**  Where no callback drains,
two firings of a repeating timer show two instants, unless time has come to
its end. -/
theorem interval_advances_until_the_end (limit : Nat) (globals : Globals)
    {actions : List (Action TimerId)} (hcalm : ∀ a ∈ actions, a.calm = true) (m : Nat)
    {handler : Handler TimerId} {delay : Duration}
    (hschedule : ((fresh globals actions).after limit m).contact? limit =
      some (.ask (.schedule .repeating handler delay))) (n : Nat) (hn : m < n) :
    ((firingsOf ⟨((fresh globals actions).after limit m).clock.lastId + 1⟩
      ((fresh globals actions).after limit n).machine.world.log).map (·.2)).Pairwise
        fun earlier later => earlier < later ↔ earlier < Duration.lastInstant := by
  obtain ⟨count, -, hfired⟩ := firingsOf_after limit globals hcalm hschedule hn
  rw [hfired, List.map_map, List.pairwise_map]
  exact List.pairwise_lt_range.imp fun hjk =>
    (((fresh globals actions).after limit m).cadence handler delay).dueAt_lt_iff hjk

theorem straggler_advances :
    (∀ a ∈ stragglerActions, a.calm = true) ∧
    ((fresh .empty stragglerActions).after 2 5).contact? 2 =
      some (.ask (.schedule .repeating .idle (.ofMillis 3))) ∧
    [4, 7].Pairwise fun earlier later => earlier < later ↔ earlier < Duration.lastInstant := by
  have hcalm : ∀ a ∈ stragglerActions, a.calm = true := by decide
  have hschedule : ((fresh .empty stragglerActions).after 2 5).contact? 2 =
      some (.ask (.schedule .repeating .idle (.ofMillis 3))) := rfl
  exact ⟨hcalm, hschedule,
    interval_advances_until_the_end 2 .empty hcalm 5 hschedule 18 (by decide)⟩

/-- An interval that takes its first turn at the last instant. -/
def endlessActions : List (Action TimerId) :=
  [.schedule .page .repeating (.ofMillis 18446744073709551615) none .idle,
    .drain (.advance (.ofMillis 18446744073709551615))]

/-- It takes its second turn there, too. -/
theorem last_instant_spins :
    (∀ a ∈ endlessActions, a.calm = true) ∧
    ((fresh .empty endlessActions).after 2 2).contact? 2 =
      some (.ask (.schedule .repeating .idle (.ofMillis 18446744073709551615))) ∧
    (firingsOf ⟨1⟩ ((fresh .empty endlessActions).after 2 7).machine.world.log).map (·.2) =
      [18446744073709551615, 18446744073709551615] :=
  ⟨by decide, rfl, rfl⟩

end ClockSession

end PageTimers
