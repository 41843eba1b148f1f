/-
# Tasks and the virtual clock in step

A clock on tasks and a virtual clock on which the same timers were scheduled
and cancelled hold the same timers, but for the callbacks: a task sleeps where
a timer waits, and the tickets of the one are the places of the other.
`Mirrors` says this of two clocks, and what either does next keeps it:

    schedule   the new task sleeps for as long as the new timer waits
    cancel     there is a task to stop where there is a timer to take out
    turn       the task that wakes first is the timer that fires first, and
               goes back to sleep where the timer is armed again

So a drain of the virtual clock and the tasks that wake meanwhile go through
the same turns (`Mirrors.turns`).

Time on tasks has no end, while no timer is due after the last instant of the
virtual clock.  Up to there the two agree on what is due, and what is due
later is out of reach for both.
-/
import Mathlib.Algebra.Order.BigOperators.Group.List
import Mathlib.Algebra.Order.Group.Nat
import PageTimers.Provider.Tasks
import PageTimers.Proofs.Clock.Opacity
import PageTimers.Proofs.Clock.Poised

namespace PageTimers

/-! ## Sleeping for whole milliseconds -/

namespace Duration

/-- No longer than the longest period. -/
def IsShort (d : Duration) : Prop := d.nanoseconds ≤ longestPeriod.nanoseconds

instance (d : Duration) : Decidable d.IsShort := inferInstanceAs (Decidable (_ ≤ _))

theorem IsShort.asSleep_eq {d : Duration} (h : d.IsShort) : d.asSleep = d := by
  refine if_pos ?_
  have hlongest : longestPeriod.seconds < secondsBound := by decide
  exact Nat.lt_of_le_of_lt (Nat.div_le_div_right h) hlongest

variable {ms : Nat}

theorem IsShort.lt_word64 (h : (ofMillis ms).IsShort) : ms < word64 := by
  have hlongest : longestPeriod.nanoseconds < word64 * 1000000 := by decide
  have hlt : ms * 1000000 < word64 * 1000000 := Nat.lt_of_le_of_lt h hlongest
  omega

theorem IsShort.asPeriod_eq (h : (ofMillis ms).IsShort) :
    (ofMillis ms).asPeriod = ofMillis (max ms 1) := by
  have hmin : min longestPeriod.nanoseconds (ofMillis ms).nanoseconds = ms * 1000000 :=
    Nat.min_eq_right h
  have hmax : max 1000000 (ms * 1000000) = max ms 1 * 1000000 := by omega
  rw [asPeriod, hmin]
  exact congrArg Duration.mk hmax

theorem IsShort.max_one (h : (ofMillis ms).IsShort) : (ofMillis (max ms 1)).IsShort := by
  have hone : 1000000 ≤ longestPeriod.nanoseconds := by decide
  have hmax : max ms 1 * 1000000 = max (ms * 1000000) 1000000 := by omega
  show max ms 1 * 1000000 ≤ _
  rw [hmax]
  exact Nat.max_le.mpr ⟨h, hone⟩

theorem IsShort.millis_period (h : (ofMillis ms).IsShort) (kind : TimerKind) :
    ∀ p, VirtualClock.periodOf kind (ofMillis ms) = some p → p < word64 := by
  intro p hp
  cases kind with
  | once => cases hp
  | repeating =>
      rw [VirtualClock.periodOf, millis_ofMillis h.lt_word64] at hp
      cases hp
      exact h.max_one.lt_word64

end Duration

/-! ## Timers without their callbacks -/

/-- A timer without its callback. -/
abbrev Slot := QueuedTimer Unit

namespace QueuedTimer

variable {α : Type} {limit : Nat} {timers others : List (QueuedTimer α)}

def slot (timer : QueuedTimer α) : Slot :=
  ⟨timer.id, timer.dueAt, timer.order, timer.period, (), timer.runs⟩

/-- The timer as a clock keeps it whose time has an end. -/
def saturated (timer : QueuedTimer α) : QueuedTimer α :=
  { timer with dueAt := min timer.dueAt Duration.lastInstant }

/-- The end of time does not show before it is reached. -/
theorem filter_isDue_saturated (hlimit : limit < Duration.lastInstant)
    (timers : List (QueuedTimer α)) :
    (timers.map saturated).filter (·.isDue (some limit)) = timers.filter (·.isDue (some limit)) := by
  induction timers with
  | nil => rfl
  | cons t timers ih =>
      have hsame : t.saturated.isDue (some limit) = t.isDue (some limit) :=
        decide_eq_decide.mpr (show min t.dueAt _ ≤ limit ↔ t.dueAt ≤ limit by omega)
      rw [List.map_cons, List.filter_cons, List.filter_cons, hsame, ih]
      split
      · next hdue =>
        have hle : t.dueAt ≤ limit := of_decide_eq_true hdue
        have hmin : min t.dueAt Duration.lastInstant = t.dueAt := by omega
        rw [saturated, hmin]
      · rfl

theorem earliest?_slot (timers : List (QueuedTimer α)) :
    (earliest? timers).map slot = earliest? (timers.map slot) := by
  show (earliest? timers).map (map fun _ => ()) = earliest? (timers.map (map fun _ => ()))
  exact (earliest?_map timers).symm

/-- Where places are distinct it does not matter how the timers are listed. -/
theorem earliest?_perm (hperm : timers.Perm others) (horders : (timers.map (·.order)).Nodup) :
    earliest? timers = earliest? others := by
  cases hothers : earliest? others with
  | none =>
      rw [earliest?_eq_none_iff] at hothers ⊢
      exact List.perm_nil.mp (hothers ▸ hperm)
  | some t =>
      cases htimers : earliest? timers with
      | none =>
          rw [earliest?_eq_none_iff.mp htimers] at hperm
          rw [List.nil_perm.mp hperm] at hothers
          cases hothers
      | some s =>
          obtain ⟨ht, hfirst⟩ := earliest?_spec hothers
          obtain ⟨hs, hfirst'⟩ := earliest?_spec htimers
          have hts := hfirst s (hperm.subset hs)
          have hst := hfirst' t (hperm.symm.subset ht)
          rw [precedes_iff] at hts hst
          exact congrArg some
            (List.inj_on_of_nodup_map horders hs (hperm.symm.subset ht) (by omega))

end QueuedTimer

namespace Task

variable {α : Type}

/-- What a task has of a timer that waits. -/
def slot (task : Task α) : Slot :=
  ⟨task.id, task.wakesAt, task.ticket, task.period.map (·.millis), (), task.runs⟩

theorem isDue_slot (limit : Nat) (task : Task α) :
    task.slot.isDue (some limit) = decide (task.wakesAt ≤ limit) := rfl

theorem earliest?_slot (tasks : List (Task α)) :
    (earliest? tasks).map slot = QueuedTimer.earliest? (tasks.map slot) := by
  cases tasks with
  | nil => rfl
  | cons t rest =>
      have hearlier : ∀ s t : Task α, s.slot.earlier t.slot = (s.earlier t).slot := by
        intro s t
        exact (apply_ite slot (s.precedes t = true) s t).symm
      rw [List.map_cons, earliest?, QueuedTimer.earliest?, Option.map_some, List.foldl_map,
        List.foldl_hom slot hearlier]

theorem mem_of_earliest? {tasks : List (Task α)} {task : Task α}
    (h : earliest? tasks = some task) : task ∈ tasks := by
  have hfold : ∀ (rest : List (Task α)) (best : Task α), rest.foldl earlier best ∈ best :: rest := by
    intro rest
    induction rest with
    | nil => exact fun best => List.mem_cons_self
    | cons t rest ih =>
        intro best
        rcases List.mem_cons.mp (ih (best.earlier t)) with hmem | hmem
        · rw [List.foldl_cons, hmem, earlier]
          split
          · exact List.mem_cons_self
          · exact List.mem_cons_of_mem _ List.mem_cons_self
        · exact List.mem_cons_of_mem _ (List.mem_cons_of_mem _ hmem)
  cases tasks with
  | nil => cases h
  | cons first rest =>
      cases h
      exact hfold rest first

/-- A task that is to wake, on a whole millisecond, and again after a whole
number of milliseconds if it repeats. -/
structure Steady (task : Task α) : Prop where
  alive : task.alive = true
  deadline : task.deadline = task.wakesAt * 1000000
  period : ∀ period, task.period = some period → period = .ofMillis period.millis

/-- A task when its callback has returned and it goes back to sleep. -/
def again (period : Duration) (ticket : Nat) (task : Task α) : Task α :=
  { task with
    deadline := TaskClock.nextDeadline task period
    ticket := ticket
    runs := task.runs + 1 }

section Again

variable {task : Task α} {period : Duration} (h : task.Steady) (hperiod : task.period = some period)

include h hperiod

theorem Steady.wakesAt_again (ticket : Nat) :
    (task.again period ticket).deadline = (task.wakesAt + period.millis) * 1000000 ∧
      (task.again period ticket).wakesAt = task.wakesAt + period.millis := by
  have hnanoseconds : period.nanoseconds = period.millis * 1000000 :=
    congrArg Duration.nanoseconds (h.period period hperiod)
  -- on a whole millisecond it makes no difference whether this was the first tick
  have hdeadline : (task.again period ticket).deadline = (task.wakesAt + period.millis) * 1000000 := by
    rw [again, TaskClock.nextDeadline, h.deadline, ite_self, hnanoseconds, Nat.add_mul]
  refine ⟨hdeadline, ?_⟩
  rw [wakesAt, hdeadline]
  omega

theorem Steady.again (ticket : Nat) : (task.again period ticket).Steady where
  alive := h.alive
  deadline := by
    obtain ⟨hdeadline, hwakes⟩ := h.wakesAt_again hperiod ticket
    rw [hdeadline, hwakes]
  period := h.period

theorem Steady.slot_again (ticket : Nat) : (task.again period ticket).slot =
    ⟨task.id, task.wakesAt + period.millis, ticket, some period.millis, (), task.runs + 1⟩ := by
  rw [slot, (h.wakesAt_again hperiod ticket).2]
  simp only [Task.again, hperiod, Option.map_some]

end Again

end Task

/-! ## Clocks in step -/

/-- Putting one entry in the place of another, seen as a list in no order. -/
theorem map_replace_perm {α β : Type} [DecidableEq β] (key : α → β) {entries : List α} {a b : α}
    (ha : a ∈ entries) (hkeys : (entries.map key).Nodup) :
    (entries.map fun x => if key x = key a then b else x).Perm
      (b :: entries.filter (key · != key a)) := by
  induction entries with
  | nil => exact absurd ha List.not_mem_nil
  | cons x entries ih =>
      rw [List.map_cons, List.nodup_cons] at hkeys
      rcases List.mem_cons.mp ha with rfl | ha
      · have hother : ∀ y ∈ entries, key y ≠ key a :=
          fun y hy he => hkeys.1 (he ▸ List.mem_map_of_mem hy)
        have hmap : entries.map (fun x => if key x = key a then b else x) = entries :=
          (List.map_congr_left fun y hy => if_neg (hother y hy)).trans (List.map_id _)
        have hfilter : entries.filter (key · != key a) = entries :=
          List.filter_eq_self.mpr fun y hy => bne_iff_ne.mpr (hother y hy)
        rw [List.map_cons, if_pos rfl, hmap, List.filter_cons_of_neg (by simp), hfilter]
      · have hne : key x ≠ key a := fun he => hkeys.1 (he ▸ List.mem_map_of_mem ha)
        rw [List.map_cons, if_neg hne, List.filter_cons_of_pos (by simpa using hne)]
        exact ((ih ha hkeys.2).cons x).trans (.swap b x _)

/-- A clock on tasks and a virtual clock that hold the same timers. -/
structure Mirrors {α β : Type} (tasks : TaskClock α) (clock : VirtualClock β) : Prop where
  now : tasks.now = clock.now
  lastId : tasks.lastId = clock.lastId
  lastOrder : tasks.lastTicket = clock.lastOrder
  running : clock.running = none
  slots : (tasks.tasks.map (·.slot.saturated)).Perm (clock.queue.map (·.slot))
  steady : ∀ task ∈ tasks.tasks, task.Steady

namespace TaskClock

variable {α : Type}

/-- The task that is started for a timer scheduled now. -/
def scheduledTask (kind : TimerKind) (callback : α) (ms : Nat) (clock : TaskClock α) : Task α :=
  let period := VirtualClock.periodOf kind (.ofMillis ms)
  ⟨⟨clock.lastId + 1⟩, (clock.now + period.getD ms) * 1000000, clock.lastTicket + 1,
    period.map .ofMillis, callback, 0, true⟩

section Schedule

variable {ms : Nat} (hms : (Duration.ofMillis ms).IsShort) (kind : TimerKind) (callback : α)
  (clock : TaskClock α)

include hms

theorem schedule_tasks : (clock.schedule kind callback (.ofMillis ms)).2.tasks =
    clock.scheduledTask kind callback ms :: clock.tasks := by
  cases kind with
  | once =>
      simp only [schedule, scheduledTask, VirtualClock.periodOf, Option.getD_none, hms.asSleep_eq,
        Nat.add_mul]
      rfl
  | repeating =>
      simp only [schedule, scheduledTask, VirtualClock.periodOf, Option.getD_some, hms.asPeriod_eq,
        hms.max_one.asSleep_eq, Duration.millis_ofMillis hms.lt_word64, Nat.add_mul]
      rfl

theorem steady_scheduledTask : (clock.scheduledTask kind callback ms).Steady where
  alive := rfl
  deadline := by
    simp only [scheduledTask, Task.wakesAt]
    omega
  period := by
    intro period hperiod
    obtain ⟨p, hp, rfl⟩ := Option.map_eq_some_iff.mp hperiod
    rw [Duration.millis_ofMillis (hms.millis_period kind p hp)]

theorem slot_scheduledTask : (clock.scheduledTask kind callback ms).slot =
    ⟨⟨clock.lastId + 1⟩, clock.now + (VirtualClock.periodOf kind (.ofMillis ms)).getD ms,
      clock.lastTicket + 1, VirtualClock.periodOf kind (.ofMillis ms), (), 0⟩ := by
  have hwakes : (clock.scheduledTask kind callback ms).wakesAt =
      clock.now + (VirtualClock.periodOf kind (.ofMillis ms)).getD ms := by
    simp only [scheduledTask, Task.wakesAt]
    omega
  have hperiod : ((VirtualClock.periodOf kind (.ofMillis ms)).map Duration.ofMillis).map (·.millis) =
      VirtualClock.periodOf kind (.ofMillis ms) := by
    rw [Option.map_map]
    refine (Option.map_congr fun p hp => ?_).trans Option.map_id_apply
    rw [Function.comp_apply, Duration.millis_ofMillis (hms.millis_period kind p hp), id_eq]
  rw [Task.slot, hwakes]
  simp only [scheduledTask, hperiod]

end Schedule

/-- The clock after a turn whose callback returns. -/
def afterTurn (task : Task α) (clock : TaskClock α) : TaskClock α :=
  (clock.wake task).settle task .returned

variable {task : Task α} {clock : TaskClock α}

theorem afterTurn_now : (clock.afterTurn task).now = max clock.now task.wakesAt := by
  unfold afterTurn settle
  split <;> rfl

theorem afterTurn_lastId : (clock.afterTurn task).lastId = clock.lastId := by
  unfold afterTurn settle
  split <;> rfl

theorem mem_of_next? {limit : Nat} (h : clock.next? limit = some task) : task ∈ clock.tasks :=
  (List.mem_filter.mp (Task.mem_of_earliest? h)).1

/-- A one-shot task is gone. -/
theorem afterTurn_of_once (clock : TaskClock α) (h : task.period = none) :
    (clock.afterTurn task).tasks = clock.tasks.filter (·.ticket != task.ticket) ∧
      (clock.afterTurn task).lastTicket = clock.lastTicket := by
  simp [afterTurn, settle, wake, h]

/-- A repeating task goes back to sleep. -/
theorem afterTurn_of_repeating (clock : TaskClock α) {period : Duration}
    (h : task.period = some period) :
    (clock.afterTurn task).tasks = clock.tasks.map (fun t =>
        if t.ticket = task.ticket then task.again period (clock.lastTicket + 1) else t) ∧
      (clock.afterTurn task).lastTicket = clock.lastTicket + 1 := by
  simp [afterTurn, settle, wake, Task.again, h]

end TaskClock

namespace VirtualClock

variable {α : Type} {timer : QueuedTimer α} {clock : VirtualClock α}

theorem afterTurn_of_once (h : timer.period = none) :
    clock.afterTurn timer = (clock.start timer).rest := by
  rw [afterTurn, finish, h]

theorem afterTurn_of_repeating {period : Nat} (h : timer.period = some period) :
    clock.afterTurn timer = (clock.start timer).rest.push timer.id (saturatingAdd timer.dueAt period)
      (some period) timer.callback (timer.runs + 1) := by
  rw [afterTurn, finish, h]
  rfl

end VirtualClock

namespace Mirrors

variable {α β : Type} {tasks : TaskClock α} {clock : VirtualClock β} {limit : Nat}
  {task : Task α} {timer : QueuedTimer β}

theorem fresh : Mirrors (.fresh : TaskClock α) (.fresh : VirtualClock β) :=
  ⟨rfl, rfl, rfl, rfl, .refl _, fun _ h => absurd h List.not_mem_nil⟩

theorem length_eq (h : Mirrors tasks clock) : tasks.tasks.length = clock.queue.length := by
  simpa using h.slots.length_eq

/-- Where places are distinct, so are tickets. -/
theorem tickets (h : Mirrors tasks clock) (horders : (clock.queue.map (·.order)).Nodup) :
    (tasks.tasks.map Task.ticket).Nodup := by
  have hperm := h.slots.map (·.order)
  rw [List.map_map, List.map_map] at hperm
  exact hperm.nodup_iff.mpr horders

theorem cancel (h : Mirrors tasks clock) (id : TimerId) :
    (tasks.cancel id).1 = (clock.cancel id).1 ∧
      Mirrors (tasks.cancel id).2 (clock.cancel id).2 := by
  refine ⟨?_, h.now, h.lastId, h.lastOrder, ?_, ?_, fun t ht => h.steady t (List.mem_filter.mp ht).1⟩
  · have hstops : clock.stopsRunning id = false := by
      rw [VirtualClock.stopsRunning, h.running]
    have halive : (tasks.cancel id).1 = tasks.tasks.any (·.id == id) := by
      rw [Bool.eq_iff_iff, TaskClock.cancel, List.any_eq_true, List.any_eq_true]
      refine exists_congr fun t => and_congr_right fun ht => ?_
      rw [(h.steady t ht).alive, Bool.and_true]
    have hfound : (tasks.tasks.map (·.slot.saturated)).any (·.id == id) =
        (clock.queue.map (·.slot)).any (·.id == id) := h.slots.any_eq
    rw [List.any_map, List.any_map] at hfound
    rw [halive, VirtualClock.cancel, hstops, Bool.or_false]
    exact hfound
  · rw [VirtualClock.cancel_running, h.running]
    rfl
  · have hfilter := h.slots.filter (·.id != id)
    rw [List.filter_map, List.filter_map] at hfilter
    exact hfilter

theorem schedule (h : Mirrors tasks clock) (kind : TimerKind) (callback : α) (callback' : β) {ms : Nat}
    (hms : (Duration.ofMillis ms).IsShort) :
    (tasks.schedule kind callback (.ofMillis ms)).1 = (clock.schedule kind callback' (.ofMillis ms)).1 ∧
      Mirrors (tasks.schedule kind callback (.ofMillis ms)).2
        (clock.schedule kind callback' (.ofMillis ms)).2 := by
  refine ⟨congrArg (fun id => TimerId.mk (id + 1)) h.lastId, h.now, congrArg (· + 1) h.lastId,
    congrArg (· + 1) h.lastOrder, h.running, ?_, ?_⟩
  · rw [TaskClock.schedule_tasks hms, List.map_cons, TaskClock.slot_scheduledTask hms,
      VirtualClock.schedule_queue, List.map_cons]
    have hnew : (clock.scheduledTimer kind callback' (.ofMillis ms)).slot =
        QueuedTimer.saturated ⟨⟨tasks.lastId + 1⟩,
          tasks.now + (VirtualClock.periodOf kind (.ofMillis ms)).getD ms, tasks.lastTicket + 1,
          VirtualClock.periodOf kind (.ofMillis ms), (), 0⟩ := by
      rw [h.lastId, h.lastOrder, h.now, VirtualClock.scheduledTimer, VirtualClock.dueFor,
        Duration.millis_ofMillis hms.lt_word64]
      rfl
    rw [hnew]
    exact h.slots.cons _
  · rw [TaskClock.schedule_tasks hms]
    exact List.forall_mem_cons.mpr ⟨TaskClock.steady_scheduledTask hms kind callback tasks, h.steady⟩

section Turn

variable (h : Mirrors tasks clock) (hlimit : limit < Duration.lastInstant)
  (horders : (clock.queue.map (·.order)).Nodup)

include h hlimit horders

/-- The task that wakes first is the timer that fires first. -/
theorem next? : (tasks.next? limit).map Task.slot = (clock.next? (some limit)).map (·.slot) := by
  have hdue : tasks.tasks.filter (fun task => task.alive && task.wakesAt ≤ limit) =
      tasks.tasks.filter ((·.isDue (some limit)) ∘ Task.slot) :=
    List.filter_congr fun t ht => by
      rw [(h.steady t ht).alive, Bool.true_and, Function.comp_apply, Task.isDue_slot]
  have hslots : ((tasks.tasks.map Task.slot).filter (·.isDue (some limit))).Perm
      ((clock.queue.map (·.slot)).filter (·.isDue (some limit))) := by
    rw [← QueuedTimer.filter_isDue_saturated hlimit, List.map_map]
    exact h.slots.filter _
  have hplaces : (((clock.queue.map (·.slot)).filter (·.isDue (some limit))).map (·.order)).Nodup := by
    refine .sublist (List.filter_sublist.map _) ?_
    rw [List.map_map]
    exact horders
  calc (tasks.next? limit).map Task.slot
      = QueuedTimer.earliest? ((tasks.tasks.map Task.slot).filter (·.isDue (some limit))) := by
        rw [TaskClock.next?, Task.earliest?_slot, hdue, List.filter_map]
    _ = QueuedTimer.earliest? ((clock.queue.map (·.slot)).filter (·.isDue (some limit))) :=
        (QueuedTimer.earliest?_perm hslots.symm hplaces).symm
    _ = (clock.next? (some limit)).map (·.slot) := by
        rw [VirtualClock.next?, QueuedTimer.earliest?_slot, List.filter_map]
        rfl

variable (htask : tasks.next? limit = some task) (htimer : clock.next? (some limit) = some timer)

include htask htimer

theorem slot_eq : task.slot = timer.slot := by
  have hnext := h.next? hlimit horders
  rw [htask, htimer] at hnext
  exact Option.some.inj hnext

theorem counters_afterTurn : (tasks.afterTurn task).now = (clock.afterTurn timer).now ∧
    (tasks.afterTurn task).lastId = (clock.afterTurn timer).lastId := by
  have hwakes : task.wakesAt = timer.dueAt :=
    congrArg (·.dueAt) (h.slot_eq hlimit horders htask htimer)
  rw [TaskClock.afterTurn_now, TaskClock.afterTurn_lastId, VirtualClock.afterTurn,
    VirtualClock.finish_now, VirtualClock.finish_lastId, h.now, hwakes, h.lastId]
  exact ⟨rfl, rfl⟩

/-- A one-shot task is gone, and so is its timer. -/
theorem turn_of_once (hperiod : task.period = none) :
    Mirrors (tasks.afterTurn task) (clock.afterTurn timer) := by
  have hslot := h.slot_eq hlimit horders htask htimer
  have hticket : task.ticket = timer.order := congrArg (·.order) hslot
  have hnone : timer.period = none := by
    have hsame : task.period.map (·.millis) = timer.period := congrArg (·.period) hslot
    rw [← hsame, hperiod, Option.map_none]
  obtain ⟨htasks, hlast⟩ := tasks.afterTurn_of_once hperiod
  have hcounters := h.counters_afterTurn hlimit horders htask htimer
  rw [VirtualClock.afterTurn_of_once hnone] at hcounters ⊢
  refine ⟨hcounters.1, hcounters.2, hlast.trans h.lastOrder, rfl, ?_, ?_⟩
  · have hkept := h.slots.filter (·.order != timer.order)
    rw [List.filter_map, List.filter_map] at hkept
    rw [htasks, hticket]
    exact hkept
  · rw [htasks]
    exact fun t ht => h.steady t (List.mem_filter.mp ht).1

/-- A repeating task goes back to sleep, for as long as its timer is armed
again. -/
theorem turn_of_repeating {period : Duration} (hperiod : task.period = some period) :
    Mirrors (tasks.afterTurn task) (clock.afterTurn timer) := by
  have hmem := TaskClock.mem_of_next? htask
  have hslot := h.slot_eq hlimit horders htask htimer
  have hticket : task.ticket = timer.order := congrArg (·.order) hslot
  have hsome : timer.period = some period.millis := by
    have hsame : task.period.map (·.millis) = timer.period := congrArg (·.period) hslot
    rw [← hsame, hperiod, Option.map_some]
  have hagain : (task.again period (tasks.lastTicket + 1)).slot.saturated =
      ⟨timer.id, saturatingAdd timer.dueAt period.millis, clock.lastOrder + 1, some period.millis, (),
        timer.runs + 1⟩ := by
    have hid : task.id = timer.id := congrArg (·.id) hslot
    have hwakes : task.wakesAt = timer.dueAt := congrArg (·.dueAt) hslot
    have hruns : task.runs = timer.runs := congrArg (·.runs) hslot
    rw [(h.steady task hmem).slot_again hperiod, hid, hruns, hwakes, h.lastOrder]
    rfl
  obtain ⟨htasks, hlast⟩ := tasks.afterTurn_of_repeating hperiod
  have hcounters := h.counters_afterTurn hlimit horders htask htimer
  rw [VirtualClock.afterTurn_of_repeating hsome] at hcounters ⊢
  refine ⟨hcounters.1, hcounters.2, ?_, rfl, ?_, ?_⟩
  · rw [hlast, h.lastOrder]
    rfl
  · -- the task that goes back to sleep, and next to it the others, as they were
    have hreplaced := (map_replace_perm Task.ticket (b := task.again period (tasks.lastTicket + 1))
      hmem (h.tickets horders)).map (·.slot.saturated)
    have hothers := h.slots.filter (·.order != timer.order)
    rw [List.filter_map, List.filter_map] at hothers
    rw [List.map_cons, hticket, hagain] at hreplaced
    rw [htasks, hticket]
    exact hreplaced.trans (hothers.cons _)
  · rw [htasks]
    intro t ht
    obtain ⟨s, hs, rfl⟩ := List.mem_map.mp ht
    split
    · exact (h.steady task hmem).again hperiod _
    · exact h.steady s hs

/-- The two turns leave the clocks in step. -/
theorem turn : Mirrors (tasks.afterTurn task) (clock.afterTurn timer) := by
  cases hperiod : task.period with
  | none => exact h.turn_of_once hlimit horders htask htimer hperiod
  | some period => exact h.turn_of_repeating hlimit horders htask htimer hperiod

end Turn

end Mirrors

/-! ## Drains in step -/

namespace TaskClock

variable {α ω : Type} {clock : TaskClock α} {limit : Nat} {task : Task α}
  {call : α → (now count : Nat) → ω → Ended × ω} {C : TimerId → α → Prop}

theorem turns_none (h : clock.next? limit = none) (left : Nat) (world : ω)
    (journal : List (Event TimerId)) :
    turns call limit left clock world journal = ⟨clock, world, journal⟩ := by
  cases left with
  | zero => rfl
  | succ left => rw [turns, h]

theorem turns_turn (h : clock.next? limit = some task) (left : Nat) {world : ω}
    (journal : List (Event TimerId))
    (hreturned : (call task.callback (clock.wake task).now task.runs world).1 = .returned) :
    turns call limit (left + 1) clock world journal =
      turns call limit left (clock.afterTurn task)
        (call task.callback (clock.wake task).now task.runs world).2 (wakeEvent task :: journal) := by
  rw [turns, h]
  simp only [hreturned]
  rfl

/-- Identifier and callback of a task stay with it. -/
theorem keeps_afterTurn (htask : C task.id task.callback) (h : ∀ t ∈ clock.tasks, C t.id t.callback) :
    ∀ t ∈ (clock.afterTurn task).tasks, C t.id t.callback := by
  intro t ht
  cases hperiod : task.period with
  | none =>
      rw [(afterTurn_of_once clock hperiod).1] at ht
      exact h t (List.mem_filter.mp ht).1
  | some period =>
      rw [(afterTurn_of_repeating clock hperiod).1] at ht
      obtain ⟨s, hs, rfl⟩ := List.mem_map.mp ht
      split
      · exact htask
      · exact h s hs

end TaskClock

/-- A timer that is not overdue fires at most once a millisecond. -/
theorem PendingTimer.firingsBy_le {ι : Type} {t : PendingTimer ι} {now limit : Nat}
    (hnow : now ≤ t.dueAt) : t.firingsBy limit ≤ limit - now + 1 := by
  unfold firingsBy
  split
  · split
    · exact Nat.succ_le_succ (Nat.zero_le _)
    · next period _ =>
      have hdiv := Nat.div_le_self (limit - t.dueAt) period
      omega
  · exact Nat.zero_le _

namespace Mirrors

variable {α β ω : Type} {tasks : TaskClock α} {clock clock' : VirtualClock β} {goal : VirtualClock.Goal}
  {timers : List (QueuedTimer β)} {limit : Nat}

/-- The tasks are given as many turns as they can take. -/
theorem firingsBy_le (h : Mirrors tasks clock) (hclock : clock.Poised) :
    clock.firingsBy limit ≤ tasks.turnsBound limit := by
  have hsum : (clock.waiting.map (·.firingsBy limit)).sum ≤
      (clock.waiting.map (·.firingsBy limit)).length • (limit - clock.now + 1) := by
    refine List.sum_le_card_nsmul _ _ fun n hn => ?_
    obtain ⟨t, ht, rfl⟩ := List.mem_map.mp hn
    obtain ⟨timer, htimer, rfl⟩ := List.mem_map.mp ht
    exact PendingTimer.firingsBy_le (hclock.le_dueAt htimer)
  rw [List.length_map, VirtualClock.waiting, List.length_map, Nat.nsmul_eq_mul] at hsum
  rw [TaskClock.turnsBound, h.length_eq, h.now]
  exact Nat.le_trans hsum (Nat.mul_le_mul_left _ (Nat.le_succ _))

variable {C : TimerId → α → Prop} {call : α → (now count : Nat) → ω → Ended × ω}
  (hcall : ∀ id callback, C id callback → ∀ now count world,
    (call callback now count world).1 = .returned)

include hcall

/-- The tasks that wake by a given time are the timers that a drain takes, one
after the other. -/
theorem turns (htakes : VirtualClock.Takes goal clock timers clock') (h : Mirrors tasks clock)
    (hclock : clock.Poised) (hgoal : goal.InTime) (hdeadline : goal.deadline = some limit)
    (hlimit : limit < Duration.lastInstant) (hC : ∀ t ∈ tasks.tasks, C t.id t.callback) {left : Nat}
    (hle : timers.length ≤ left) (world : ω) (journal : List (Event TimerId)) :
    ∃ woken : List (Task α),
      woken.map Task.slot = timers.map (·.slot) ∧ (∀ t ∈ woken, C t.id t.callback) ∧
      Mirrors (TaskClock.turns call limit left tasks world journal).clock clock' ∧
      (∀ t ∈ (TaskClock.turns call limit left tasks world journal).clock.tasks,
        C t.id t.callback) ∧
      (TaskClock.turns call limit left tasks world journal).world =
        woken.foldl (fun world t => (call t.callback t.wakesAt t.runs world).2) world := by
  induction htakes generalizing tasks left world journal with
  | @quiet clock hnone =>
      rw [hdeadline] at hnone
      have hnext : tasks.next? limit = none := by
        have hslots := h.next? hlimit hclock.orders
        rw [hnone] at hslots
        exact Option.map_eq_none_iff.mp hslots
      rw [TaskClock.turns_none hnext]
      exact ⟨[], rfl, fun _ ht => absurd ht List.not_mem_nil, h, hC, rfl⟩
  | @turn clock clock' timer timers hnext _ ih =>
      have hdue : clock.next? (some limit) = some timer := hdeadline ▸ hnext
      have hslots := h.next? hlimit hclock.orders
      rw [hdue] at hslots
      obtain ⟨task, htask, hslot⟩ := Option.map_eq_some_iff.mp hslots
      have hmem := TaskClock.mem_of_next? htask
      obtain ⟨left, rfl⟩ := Nat.exists_eq_add_of_le' (Nat.le_trans (Nat.succ_pos _) hle)
      have hreturned := hcall _ _ (hC task hmem) (tasks.wake task).now task.runs world
      have hnow : (tasks.wake task).now = task.wakesAt := by
        have hwakes : task.wakesAt = timer.dueAt := congrArg (·.dueAt) hslot
        have hdueAt := hclock.le_dueAt (VirtualClock.next?_spec hnext).1
        rw [← h.now, ← hwakes] at hdueAt
        exact Nat.max_eq_right hdueAt
      obtain ⟨woken, hwoken, hcallbacks, hmirrors, hkept, hworld⟩ :=
        ih (h.turn hlimit hclock.orders htask hdue) (hclock.afterTurn hgoal hdeadline hnext)
          (TaskClock.keeps_afterTurn (hC task hmem) hC) (Nat.le_of_succ_le_succ hle)
          (call task.callback (tasks.wake task).now task.runs world).2
          (TaskClock.wakeEvent task :: journal)
      rw [TaskClock.turns_turn htask left journal hreturned]
      refine ⟨task :: woken, ?_, List.forall_mem_cons.mpr ⟨hC task hmem, hcallbacks⟩, hmirrors,
        hkept, ?_⟩
      · exact congrArg₂ List.cons hslot hwoken
      · rw [hworld, hnow, List.foldl_cons]

/-- What a drain takes, with the clock moved on to its goal, is what the tasks
do in the same time. -/
theorem sleep {span : Nat} (htakes : VirtualClock.Takes goal clock timers clock')
    (h : Mirrors tasks clock) (hclock : clock.Poised) (hgoal : goal.InTime)
    (hdeadline : goal.deadline = some (clock.now + span))
    (hlimit : clock.now + span < Duration.lastInstant)
    (hcount : timers.length = clock.firingsBy (clock.now + span))
    (hreach : (clock'.reach goal).now = max clock'.now (clock.now + span))
    (hC : ∀ t ∈ tasks.tasks, C t.id t.callback) (world : ω) (journal : List (Event TimerId)) :
    ∃ woken : List (Task α),
      woken.map Task.slot = timers.map (·.slot) ∧ (∀ t ∈ woken, C t.id t.callback) ∧
      Mirrors (tasks.sleep call span world journal).clock (clock'.reach goal) ∧
      (∀ t ∈ (tasks.sleep call span world journal).clock.tasks, C t.id t.callback) ∧
      (tasks.sleep call span world journal).world =
        woken.foldl (fun world t => (call t.callback t.wakesAt t.runs world).2) world := by
  have hle : timers.length ≤ tasks.turnsBound (clock.now + span) := by
    rw [hcount]
    exact h.firingsBy_le hclock
  obtain ⟨woken, hwoken, hcallbacks, hmirrors, hkept, hworld⟩ :=
    turns hcall htakes h hclock hgoal hdeadline hlimit hC hle world journal
  rw [← h.now] at hmirrors hkept hworld hreach
  refine ⟨woken, hwoken, hcallbacks, ⟨?_, ?_, ?_, ?_, ?_, hmirrors.steady⟩, hkept, hworld⟩
  · rw [hreach, ← hmirrors.now]
    rfl
  · rw [VirtualClock.reach_lastId]
    exact hmirrors.lastId
  · rw [VirtualClock.reach_lastOrder]
    exact hmirrors.lastOrder
  · rw [VirtualClock.reach_running]
    exact hmirrors.running
  · rw [VirtualClock.reach_queue]
    exact hmirrors.slots

end Mirrors

end PageTimers
