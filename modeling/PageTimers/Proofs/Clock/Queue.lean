/-
# The queue of the virtual clock

What each operation of the clock does to the timers that wait, stated once
so that nothing later has to open the operations:

    schedule   one timer more, under a new identifier
    cancel     all timers of one identifier less
    start      the timer that fires first less
    finish     a repeating timer that was not cancelled once more
    rest       nothing

and what a drain does in one turn (`proceed_cases`).

`next?_spec` is the meaning of "fires first": due by the deadline, and before
every other timer that is.  The order on timers is by due time and then by
place, so it is total, and the fold over the queue finds its least element.
-/
import PageTimers.Provider.Virtual

namespace PageTimers

theorem Duration.millis_ofMillis {ms : Nat} (h : ms < word64) : (ofMillis ms).millis = ms := by
  simp only [ofMillis, millis, lastInstant]
  omega

/-! ## Which timer fires first -/

namespace QueuedTimer

variable {α : Type}

theorem precedes_iff {s t : QueuedTimer α} :
    s.precedes t = true ↔ s.dueAt < t.dueAt ∨ s.dueAt = t.dueAt ∧ s.order ≤ t.order := by
  simp [precedes]

theorem precedes_refl (t : QueuedTimer α) : t.precedes t = true :=
  precedes_iff.mpr (Or.inr ⟨rfl, Nat.le_refl _⟩)

theorem precedes_trans {s t u : QueuedTimer α} (hst : s.precedes t = true)
    (htu : t.precedes u = true) : s.precedes u = true := by
  rw [precedes_iff] at *
  omega

theorem precedes_of_not {s t : QueuedTimer α} (h : s.precedes t = false) :
    t.precedes s = true := by
  rw [← Bool.not_eq_true, precedes_iff] at h
  rw [precedes_iff]
  omega

/-- `s` fires before `t`: due earlier, or at the same time with an earlier
place. -/
def Before (s t : QueuedTimer α) : Prop :=
  s.dueAt < t.dueAt ∨ s.dueAt = t.dueAt ∧ s.order < t.order

theorem Before.of_precedes {s t : QueuedTimer α} (h : s.precedes t = true)
    (hne : s.order ≠ t.order) : s.Before t := by
  rw [precedes_iff] at h
  unfold Before
  omega

/-- The earlier of two timers is one of them and precedes both. -/
theorem earlier_spec (s t : QueuedTimer α) :
    (s.earlier t = s ∨ s.earlier t = t) ∧
      (s.earlier t).precedes s = true ∧ (s.earlier t).precedes t = true := by
  unfold earlier
  split
  · next h => exact ⟨Or.inl rfl, precedes_refl s, h⟩
  · next h => exact ⟨Or.inr rfl, precedes_of_not (by simpa using h), precedes_refl t⟩

theorem foldl_earlier_spec (rest : List (QueuedTimer α)) (best : QueuedTimer α) :
    (rest.foldl earlier best = best ∨ rest.foldl earlier best ∈ rest) ∧
      (rest.foldl earlier best).precedes best = true ∧
      ∀ s ∈ rest, (rest.foldl earlier best).precedes s = true := by
  induction rest generalizing best with
  | nil => exact ⟨Or.inl rfl, precedes_refl best, fun _ h => absurd h List.not_mem_nil⟩
  | cons t rest ih =>
      obtain ⟨hmem, hbest, hall⟩ := ih (best.earlier t)
      obtain ⟨hone, hle, hle'⟩ := earlier_spec best t
      simp only [List.foldl_cons, List.mem_cons, forall_eq_or_imp]
      refine ⟨?_, precedes_trans hbest hle, precedes_trans hbest hle', hall⟩
      rcases hmem with h | h
      · rw [h]
        rcases hone with h' | h'
        · exact Or.inl h'
        · exact Or.inr (Or.inl h')
      · exact Or.inr (Or.inr h)

theorem earliest?_spec {timers : List (QueuedTimer α)} {t : QueuedTimer α}
    (h : earliest? timers = some t) : t ∈ timers ∧ ∀ s ∈ timers, t.precedes s = true := by
  cases timers with
  | nil => exact absurd h (by simp [earliest?])
  | cons first rest =>
      obtain rfl : rest.foldl earlier first = t := by simpa [earliest?] using h
      obtain ⟨hmem, hfirst, hall⟩ := foldl_earlier_spec rest first
      refine ⟨?_, ?_⟩
      · rcases hmem with h | h
        · rw [h]; exact List.mem_cons_self
        · exact List.mem_cons_of_mem _ h
      · exact List.forall_mem_cons.mpr ⟨hfirst, hall⟩

theorem earliest?_eq_none_iff {timers : List (QueuedTimer α)} :
    earliest? timers = none ↔ timers = [] := by
  cases timers <;> simp [earliest?]

end QueuedTimer

namespace VirtualClock

variable {α : Type}

/-- The timer that fires next waits, is due, and precedes all that are due. -/
theorem next?_spec {deadline : Option Nat} {clock : VirtualClock α} {t : QueuedTimer α}
    (h : clock.next? deadline = some t) :
    t ∈ clock.queue ∧ t.isDue deadline = true ∧
      ∀ s ∈ clock.queue, s.isDue deadline = true → t.precedes s = true := by
  obtain ⟨hmem, hall⟩ := QueuedTimer.earliest?_spec h
  rw [List.mem_filter] at hmem
  exact ⟨hmem.1, hmem.2, fun s hs hdue => hall s (List.mem_filter.mpr ⟨hs, hdue⟩)⟩

theorem next?_dueAt_le {latest : Nat} {clock : VirtualClock α} {t : QueuedTimer α}
    (h : clock.next? (some latest) = some t) : t.dueAt ≤ latest :=
  of_decide_eq_true (next?_spec h).2.1

/-- What is due later than a timer that is due is due after it, so the next
timer precedes the whole queue. -/
theorem next?_precedes {deadline : Option Nat} {clock : VirtualClock α} {t : QueuedTimer α}
    (h : clock.next? deadline = some t) : ∀ s ∈ clock.queue, t.precedes s = true := by
  obtain ⟨-, htdue, hall⟩ := next?_spec h
  intro s hs
  by_cases hsdue : s.isDue deadline = true
  · exact hall s hs hsdue
  · cases deadline with
    | none => exact absurd rfl hsdue
    | some limit =>
        simp only [QueuedTimer.isDue, decide_eq_true_eq] at htdue hsdue
        rw [QueuedTimer.precedes_iff]
        omega

theorem next?_eq_none_iff {deadline : Option Nat} {clock : VirtualClock α} :
    clock.next? deadline = none ↔ ∀ s ∈ clock.queue, s.isDue deadline = false := by
  rw [next?, QueuedTimer.earliest?_eq_none_iff, List.filter_eq_nil_iff]
  simp

/-! ## Scheduling -/

/-- When a timer that is scheduled now comes due. -/
def dueFor (kind : TimerKind) (delay : Duration) (clock : VirtualClock α) : Nat :=
  saturatingAdd clock.now ((periodOf kind delay).getD delay.millis)

/-- The timer that a schedule call puts into the queue. -/
def scheduledTimer (kind : TimerKind) (callback : α) (delay : Duration)
    (clock : VirtualClock α) : QueuedTimer α :=
  ⟨⟨clock.lastId + 1⟩, clock.dueFor kind delay, clock.lastOrder + 1, periodOf kind delay,
    callback, 0⟩

section Schedule

variable (kind : TimerKind) (callback : α) (delay : Duration) (clock : VirtualClock α)

@[simp] theorem schedule_id : (clock.schedule kind callback delay).1 = ⟨clock.lastId + 1⟩ := rfl

@[simp] theorem schedule_now : (clock.schedule kind callback delay).2.now = clock.now := rfl

@[simp] theorem schedule_lastId :
    (clock.schedule kind callback delay).2.lastId = clock.lastId + 1 := rfl

@[simp] theorem schedule_lastOrder :
    (clock.schedule kind callback delay).2.lastOrder = clock.lastOrder + 1 := rfl

@[simp] theorem schedule_running :
    (clock.schedule kind callback delay).2.running = clock.running := rfl

@[simp] theorem schedule_queue :
    (clock.schedule kind callback delay).2.queue =
      clock.scheduledTimer kind callback delay :: clock.queue := rfl

end Schedule

/-! ## Cancelling -/

section Cancel

variable (id : TimerId) (clock : VirtualClock α)

@[simp] theorem cancel_now : (clock.cancel id).2.now = clock.now := rfl

@[simp] theorem cancel_lastId : (clock.cancel id).2.lastId = clock.lastId := rfl

@[simp] theorem cancel_lastOrder : (clock.cancel id).2.lastOrder = clock.lastOrder := rfl

@[simp] theorem mem_cancel_queue {t : QueuedTimer α} :
    t ∈ (clock.cancel id).2.queue ↔ t ∈ clock.queue ∧ t.id ≠ id := by
  simp [cancel]

/-- Cancelling keeps the running timer, and marks it if it is the one and
repeats. -/
theorem cancel_running :
    (clock.cancel id).2.running =
      clock.running.map fun r =>
        { r with cancelled := r.cancelled || (r.id == id && r.kind == .repeating) } := by
  cases hr : clock.running with
  | none => simp [cancel, hr]
  | some r =>
      obtain ⟨rid, kind, cancelled⟩ := r
      cases cancelled <;> cases kind <;> by_cases hid : rid = id <;>
        simp [cancel, stopsRunning, hr, hid]

end Cancel

/-! ## Firing -/

section Start

variable (timer : QueuedTimer α) (clock : VirtualClock α)

@[simp] theorem start_now : (clock.start timer).now = max clock.now timer.dueAt := rfl

@[simp] theorem start_lastId : (clock.start timer).lastId = clock.lastId := rfl

@[simp] theorem start_lastOrder : (clock.start timer).lastOrder = clock.lastOrder := rfl

@[simp] theorem start_running :
    (clock.start timer).running = some ⟨timer.id, timer.kind, false⟩ := rfl

@[simp] theorem mem_start_queue {t : QueuedTimer α} :
    t ∈ (clock.start timer).queue ↔ t ∈ clock.queue ∧ t.order ≠ timer.order := by
  simp [start]

@[simp] theorem rest_now : clock.rest.now = clock.now := rfl

@[simp] theorem rest_lastId : clock.rest.lastId = clock.lastId := rfl

@[simp] theorem rest_lastOrder : clock.rest.lastOrder = clock.lastOrder := rfl

@[simp] theorem rest_queue : clock.rest.queue = clock.queue := rfl

@[simp] theorem rest_running : clock.rest.running = none := rfl

@[simp] theorem finish_now : (clock.finish timer).now = clock.now := by
  unfold finish; split
  · rfl
  · split <;> rfl

@[simp] theorem finish_lastId : (clock.finish timer).lastId = clock.lastId := by
  unfold finish; split
  · rfl
  · split <;> rfl

@[simp] theorem finish_running : (clock.finish timer).running = none := by
  unfold finish; split
  · rfl
  · split <;> rfl

end Start

/-- The next turn of a repeating timer, one period after the time it was due. -/
def rearmed (timer : QueuedTimer α) (period : Nat) (clock : VirtualClock α) : QueuedTimer α :=
  ⟨timer.id, saturatingAdd timer.dueAt period, clock.lastOrder + 1, some period, timer.callback,
    timer.runs + 1⟩

/-- The two ways in which a callback can come to its end: its timer is gone,
or a repeating timer that was not cancelled waits for its next turn. -/
theorem finish_cases (timer : QueuedTimer α) (clock : VirtualClock α) :
    (clock.finish timer = clock.rest ∧ (timer.period = none ∨ clock.wasCancelled = true)) ∨
      ∃ period, timer.period = some period ∧ clock.wasCancelled = false ∧
        (clock.finish timer).queue = clock.rearmed timer period :: clock.queue ∧
        (clock.finish timer).lastOrder = clock.lastOrder + 1 := by
  unfold finish
  cases hp : timer.period with
  | none => exact Or.inl ⟨rfl, Or.inl rfl⟩
  | some period =>
      cases hc : clock.wasCancelled with
      | true => exact Or.inl ⟨rfl, Or.inr rfl⟩
      | false => exact Or.inr ⟨period, rfl, rfl, rfl, rfl⟩

/-! ## Goals -/

theorem Goal.of_millis {now ms : Nat} (h : now + ms < word64) :
    Goal.of (.advance (.ofMillis ms)) now = .ok (.advance ms (now + ms)) := by
  rw [Goal.of, Duration.millis_ofMillis (by omega), if_pos h]

/-! ## The end of a drain -/

section Reach

variable (goal : Goal) (clock : VirtualClock α)

@[simp] theorem reach_queue : (clock.reach goal).queue = clock.queue := by
  cases goal <;> rfl

@[simp] theorem reach_running : (clock.reach goal).running = clock.running := by
  cases goal <;> rfl

@[simp] theorem reach_lastId : (clock.reach goal).lastId = clock.lastId := by
  cases goal <;> rfl

@[simp] theorem reach_lastOrder : (clock.reach goal).lastOrder = clock.lastOrder := by
  cases goal <;> rfl

theorem now_le_reach : clock.now ≤ (clock.reach goal).now := by
  cases goal with
  | advance delta target => exact Nat.le_max_left _ _
  | runDue now => exact Nat.le_refl _
  | flush => exact Nat.le_refl _

end Reach

/-! ## Turns of a drain -/

/-- A turn of a drain finds nothing to run, or has come to its limit, or
starts the timer that fires next. -/
theorem proceed_cases (goal : Goal) (left ran : Nat) (clock : VirtualClock α) :
    (clock.next? goal.deadline = none ∧ proceed goal left ran clock =
      ⟨reachEvents goal ran clock, clock.reach goal, .answer (.ok (.ran ran))⟩) ∨
    (left = 0 ∧ proceed goal left ran clock =
      ⟨[], clock, .answer (.error (.stepLimitExceeded ran))⟩) ∨
    ∃ timer left', clock.next? goal.deadline = some timer ∧ left = left' + 1 ∧
      proceed goal left ran clock =
        ⟨[startEvent timer clock], clock.start timer,
          .invoke timer.firing ⟨goal, left', ran + 1, timer⟩⟩ := by
  unfold proceed
  cases clock.next? goal.deadline with
  | none => exact Or.inl ⟨rfl, rfl⟩
  | some timer =>
      cases left with
      | zero => exact Or.inr (Or.inl ⟨rfl, rfl⟩)
      | succ left => exact Or.inr (Or.inr ⟨timer, left, rfl, rfl, rfl⟩)

/-- A drain is refused, or it takes its first turn. -/
theorem ask_drain_cases (limit : Nat) (drain : Drain) (clock : VirtualClock α) :
    (∃ e, ask limit (.drain drain) clock = ⟨[], clock, .answer (.error e)⟩) ∨
    ∃ goal, Goal.of drain clock.now = .ok goal ∧
      ask limit (.drain drain) clock = proceed goal (clampLimit limit) 0 clock := by
  simp only [ask]
  cases Goal.of drain clock.now with
  | error e => exact Or.inl ⟨e, rfl⟩
  | ok goal => exact Or.inr ⟨goal, rfl, rfl⟩

end VirtualClock

end PageTimers
