/-
# The order in which callbacks fire

Where callbacks do not drain, all the callbacks of a run are started in one
order, however many drains it took and however those ended: by due time, and
at the same time by place in the queue.  And each of them is started when the
clock shows the time at which it was due.

The invariant is `Chronological`: the clock stands between what it has
started and what still waits.

    started … ≤ now ≤ … waiting

Scheduling keeps it because the clock does not overrun its last instant, and
a timer comes behind all that were put into the queue before.  Arming a timer
again keeps it for the same reason: its callback was started on time, and
nothing has moved the clock since.  The end of `advance` moves the clock, but
only up to where nothing is due.
-/
import PageTimers.Proofs.Clock.Obedience

namespace PageTimers

theorem firings_started {α : Type} (history : List (Happening α)) (t : QueuedTimer α) (now : Nat) :
    firings (history ++ [.started t now]) = firings history ++ [(t, now)] :=
  firings_append _ _

theorem firings_unfired {α : Type} (history : List (Happening α)) {h : Happening α}
    (hh : h.fired? = none) : firings (history ++ [h]) = firings history := by
  rw [firings, List.filterMap_append, List.filterMap_cons_none hh]
  exact List.append_nil _

namespace VirtualClock

variable {α : Type}

theorem le_saturatingAdd {instant span : Nat} (h : instant ≤ Duration.lastInstant) :
    instant ≤ saturatingAdd instant span :=
  Nat.le_min.mpr ⟨Nat.le_add_right _ _, h⟩

theorem saturatingAdd_le (instant span : Nat) :
    saturatingAdd instant span ≤ Duration.lastInstant :=
  Nat.min_le_right _ _

/-- What was started lies behind the clock, and what waits lies ahead. -/
structure Chronological (history : List (Happening α)) (p : Place α) : Prop where
  now_le : p.state.now ≤ Duration.lastInstant
  ahead : ∀ t ∈ p.state.queue,
    p.state.now ≤ t.dueAt ∧ t.dueAt ≤ Duration.lastInstant ∧ t.order ≤ p.state.lastOrder
  /-- The callback under way was started on time. -/
  punctual : ∀ u ∈ p.suspended, u.timer.dueAt = p.state.now
  shallow : p.suspended.length ≤ 1
  behind : ∀ s ∈ firings history, s.1.dueAt ≤ p.state.now ∧ s.1.order ≤ p.state.lastOrder
  before : ∀ s ∈ firings history, ∀ t ∈ p.state.queue, s.1.Before t

namespace Chronological

variable {history : List (Happening α)} {p q : Place α}

theorem fresh : Chronological [] (⟨.fresh, []⟩ : Place α) where
  now_le := Nat.zero_le _
  ahead _ h := absurd h List.not_mem_nil
  punctual _ h := absurd h List.not_mem_nil
  shallow := Nat.zero_le 1
  behind _ h := absurd h List.not_mem_nil
  before _ h := absurd h List.not_mem_nil

/-- A queue with fewer timers, and fewer callbacks under way. -/
theorem of_subset (hp : Chronological history p) (hnow : q.state.now = p.state.now)
    (horder : q.state.lastOrder = p.state.lastOrder)
    (hqueue : ∀ t ∈ q.state.queue, t ∈ p.state.queue)
    (hus : q.suspended.Sublist p.suspended) : Chronological history q where
  now_le := hnow ▸ hp.now_le
  ahead t ht := by
    rw [hnow, horder]
    exact hp.ahead t (hqueue t ht)
  punctual u hu := by
    rw [hnow]
    exact hp.punctual u (hus.subset hu)
  shallow := Nat.le_trans hus.length_le hp.shallow
  behind s hs := by
    rw [hnow, horder]
    exact hp.behind s hs
  before s hs t ht := hp.before s hs t (hqueue t ht)

/-- A timer that is put into the queue comes after all that were started. -/
theorem of_push (hp : Chronological history p) {t : QueuedTimer α}
    (hnow : q.state.now = p.state.now) (horder : q.state.lastOrder = p.state.lastOrder + 1)
    (hqueue : q.state.queue = t :: p.state.queue) (hus : q.suspended.Sublist p.suspended)
    (ht : t.order = p.state.lastOrder + 1)
    (hdue : p.state.now ≤ t.dueAt ∧ t.dueAt ≤ Duration.lastInstant) :
    Chronological history q where
  now_le := hnow ▸ hp.now_le
  ahead s hs := by
    rw [hqueue] at hs
    rw [hnow, horder]
    rcases List.mem_cons.mp hs with rfl | hs
    · exact ⟨hdue.1, hdue.2, Nat.le_of_eq ht⟩
    · obtain ⟨hle, hlast, hplace⟩ := hp.ahead s hs
      exact ⟨hle, hlast, Nat.le_succ_of_le hplace⟩
  punctual u hu := by
    rw [hnow]
    exact hp.punctual u (hus.subset hu)
  shallow := Nat.le_trans hus.length_le hp.shallow
  behind s hs := by
    obtain ⟨hle, hplace⟩ := hp.behind s hs
    rw [hnow, horder]
    exact ⟨hle, Nat.le_succ_of_le hplace⟩
  before s hs r hr := by
    rw [hqueue] at hr
    rcases List.mem_cons.mp hr with rfl | hr
    · obtain ⟨hle, hplace⟩ := hp.behind s hs
      unfold QueuedTimer.Before
      omega
    · exact hp.before s hs r hr

theorem of_unfired (hp : Chronological history p) {h : Happening α} (hh : h.fired? = none) :
    Chronological (history ++ [h]) p := by
  refine ⟨hp.now_le, hp.ahead, hp.punctual, hp.shallow, ?_, ?_⟩
  · rw [firings_unfired history hh]
    exact hp.behind
  · rw [firings_unfired history hh]
    exact hp.before

/-- The timer that fires next is started on time. -/
theorem start_on_time {clock : VirtualClock α} {deadline : Option Nat} {timer : QueuedTimer α}
    {us : List (UnderWay α)} (hp : Chronological history ⟨clock, us⟩)
    (hnext : clock.next? deadline = some timer) : (clock.start timer).now = timer.dueAt :=
  Nat.max_eq_right (hp.ahead timer (next?_spec hnext).1).1

/-- Starting it moves the clock no further than to where the others wait. -/
theorem start {clock : VirtualClock α} {goal : Goal} (left ran : Nat) {timer : QueuedTimer α}
    (hp : Chronological history ⟨clock, []⟩) (hnext : clock.next? goal.deadline = some timer) :
    Chronological (history ++ [.started timer (clock.start timer).now])
      ⟨clock.start timer, [⟨goal, left, ran, timer⟩]⟩ := by
  have hnow : (clock.start timer).now = timer.dueAt := hp.start_on_time hnext
  obtain ⟨hle, hlast, hplace⟩ := hp.ahead timer (next?_spec hnext).1
  -- what stays in the queue comes later, also what is due after the deadline
  have hafter : ∀ t ∈ (clock.start timer).queue, t ∈ clock.queue ∧ timer.Before t := by
    intro t ht
    obtain ⟨ht, hne⟩ := (mem_start_queue timer clock).mp ht
    exact ⟨ht, .of_precedes (next?_precedes hnext t ht) hne.symm⟩
  have hfirings : ∀ s ∈ firings (history ++ [.started timer (clock.start timer).now]),
      s ∈ firings history ∨ s.1 = timer := by
    intro s hs
    rw [firings_started] at hs
    rcases List.mem_append.mp hs with hs | hs
    · exact Or.inl hs
    · exact Or.inr (by rw [List.mem_singleton.mp hs])
  refine ⟨?_, ?_, ?_, Nat.le_refl 1, ?_, ?_⟩
  · exact hnow ▸ hlast
  · intro t ht
    obtain ⟨ht, hbefore⟩ := hafter t ht
    refine ⟨?_, (hp.ahead t ht).2⟩
    show (clock.start timer).now ≤ t.dueAt
    unfold QueuedTimer.Before at hbefore
    omega
  · intro u hu
    rw [List.mem_singleton] at hu
    subst hu
    exact hnow.symm
  · intro s hs
    show s.1.dueAt ≤ (clock.start timer).now ∧ s.1.order ≤ clock.lastOrder
    rw [hnow]
    rcases hfirings s hs with hs | hs
    · obtain ⟨hsle, hsplace⟩ := hp.behind s hs
      exact ⟨Nat.le_trans hsle hle, hsplace⟩
    · rw [hs]
      exact ⟨Nat.le_refl _, hplace⟩
  · intro s hs t ht
    obtain ⟨ht, hbefore⟩ := hafter t ht
    rcases hfirings s hs with hs | hs
    · exact hp.before s hs t ht
    · rw [hs]
      exact hbefore

/-- A drain that has run all that was due moves the clock no further than to
where the rest waits. -/
theorem reach {clock : VirtualClock α} {goal : Goal} (hp : Chronological history ⟨clock, []⟩)
    (hgoal : goal.InTime) (hnext : clock.next? goal.deadline = none) :
    Chronological history ⟨clock.reach goal, []⟩ := by
  cases goal with
  | runDue now => exact hp
  | flush => exact hp
  | advance delta target =>
      have hlate : ∀ t ∈ clock.queue, target < t.dueAt := by
        intro t ht
        have hdue := next?_eq_none_iff.mp hnext t ht
        simpa [QueuedTimer.isDue, Goal.deadline] using hdue
      refine ⟨Nat.max_le.mpr ⟨hp.now_le, hgoal⟩, ?_, fun _ h => absurd h List.not_mem_nil,
        Nat.zero_le 1, ?_, hp.before⟩
      · intro t ht
        obtain ⟨hle, hrest⟩ := hp.ahead t ht
        exact ⟨Nat.max_le.mpr ⟨hle, Nat.le_of_lt (hlate t ht)⟩, hrest⟩
      · intro s hs
        obtain ⟨hle, hplace⟩ := hp.behind s hs
        exact ⟨Nat.le_trans hle (now_le_reach _ clock), hplace⟩

/-- Every beat keeps to the order, where drains do not nest. -/
theorem beat {h : Happening α} (hp : Chronological history p) (b : Beat False p h q) :
    Chronological (history ++ [h]) q := by
  cases b with
  | @schedule clock us kind callback delay =>
      have hq : Chronological history ⟨(clock.schedule kind callback delay).2, us⟩ :=
        hp.of_push rfl rfl rfl (.refl _) rfl ⟨le_saturatingAdd hp.now_le, saturatingAdd_le _ _⟩
      exact hq.of_unfired rfl
  | @cancel clock us id =>
      have hq : Chronological history ⟨(clock.cancel id).2, us⟩ :=
        hp.of_subset rfl rfl (fun t ht => ((mem_cancel_queue id clock).mp ht).1) (.refl _)
      exact hq.of_unfired rfl
  | start hnext _ hus =>
      obtain rfl := hus.resolve_right id
      exact hp.start _ _ hnext
  | reach hnext hgoal hus =>
      obtain rfl := hus.resolve_right id
      exact (hp.reach hgoal hnext).of_unfired rfl
  | @finish clock u us =>
      have hdue : u.timer.dueAt = clock.now := hp.punctual u List.mem_cons_self
      have hq : Chronological history ⟨clock.finish u.timer, us⟩ := by
        rcases finish_cases u.timer clock with ⟨hrest, -⟩ | ⟨period, -, -, hqueue, horder⟩
        · rw [hrest]
          exact hp.of_subset rfl rfl (fun _ ht => ht) (List.sublist_cons_self _ _)
        · refine hp.of_push (finish_now _ _) horder hqueue (List.sublist_cons_self _ _) rfl ?_
          rw [rearmed, hdue]
          exact ⟨le_saturatingAdd hp.now_le, saturatingAdd_le _ _⟩
      exact hq.of_unfired rfl
  | @abandon clock u us =>
      have hq : Chronological history ⟨clock.rest, us⟩ :=
        hp.of_subset rfl rfl (fun _ ht => ht) (List.sublist_cons_self _ _)
      exact hq.of_unfired rfl

theorem beats {history : List (Happening α)} (h : Beats False ⟨.fresh, []⟩ history q) :
    Chronological history q := by
  induction h with
  | refl => exact fresh
  | snoc _ b ih => exact ih.beat b

end Chronological

/-- Callbacks are started one after the other, each of them on time. -/
theorem firings_ordered {history : List (Happening α)} {q : Place α}
    (h : Beats False ⟨.fresh, []⟩ history q) :
    (firings history).Pairwise (fun s t => s.1.Before t.1) ∧
      ∀ s ∈ firings history, s.2 = s.1.dueAt := by
  induction h with
  | refl => exact ⟨.nil, fun _ h => absurd h List.not_mem_nil⟩
  | @snoc p r before h hbefore b ih =>
      obtain ⟨hpair, htime⟩ := ih
      have hp : Chronological before p := .beats hbefore
      cases b with
      | schedule | cancel | reach | finish | abandon =>
          rw [firings_unfired before rfl]
          exact ⟨hpair, htime⟩
      | @start clock us goal left ran timer hnext _ hus =>
          rw [firings_started]
          obtain rfl := hus.resolve_right id
          have hmem : timer ∈ clock.queue := (next?_spec hnext).1
          refine ⟨List.pairwise_append.mpr ⟨hpair, List.pairwise_singleton _ _, ?_⟩, ?_⟩
          · intro s hs t ht
            rw [List.mem_singleton.mp ht]
            exact hp.before s hs timer hmem
          · intro s hs
            rcases List.mem_append.mp hs with hs | hs
            · exact htime s hs
            · rw [List.mem_singleton.mp hs]
              exact hp.start_on_time hnext

end VirtualClock

namespace ClockSession

/-- **Callbacks fire in order.**  Over a whole run in which no callback
drains, all callbacks are started in strictly ascending order of due time and
place, each of them when the clock shows the time at which it was due; and
these are the callbacks that the log records. -/
theorem fires_in_order (limit : Nat) (globals : Globals) {actions : List (Action TimerId)}
    (hcalm : ∀ a ∈ actions, a.calm = true) (n : Nat) :
    (firings ((fresh globals actions).history limit n)).Pairwise (fun s t => s.1.Before t.1) ∧
    (∀ s ∈ firings ((fresh globals actions).history limit n), s.2 = s.1.dueAt) ∧
    (((fresh globals actions).after limit n).machine.world.log.filterMap Entry.start?).reverse =
      (firings ((fresh globals actions).history limit n)).map fun s => (s.1.firing, s.2) := by
  have h := beats_of_calm limit globals hcalm n
  obtain ⟨hpair, htime⟩ := VirtualClock.firings_ordered h
  refine ⟨hpair, htime, ?_⟩
  rw [log_starts, firings, List.map_filterMap]
  rfl

/-- On its first turn it schedules a timer that is due at once, on its second
it throws. -/
def restlessTick : Handler TimerId :=
  .mk false [[.schedule .page .once (.ofMillis 0) none .idle], [.throw]] []

def restlessActions : List (Action TimerId) :=
  [.schedule .page .repeating (.ofMillis 10) none restlessTick, .drain (.advance (.ofMillis 20)),
    .drain .flush]

/-- The first drain comes to its limit, the second ends in a throw. -/
theorem restless_fires_in_order :
    (∀ a ∈ restlessActions, a.calm = true) ∧
    (firings ((fresh .empty restlessActions).history 2 16)).map (fun s => (s.1.order, s.2)) =
      [(1, 10), (2, 10), (3, 20)] ∧
    (firings ((fresh .empty restlessActions).history 2 16)).Pairwise (fun s t => s.1.Before t.1) :=
  ⟨by decide, rfl, (fires_in_order 2 .empty (by decide) 16).1⟩

end ClockSession

end PageTimers
