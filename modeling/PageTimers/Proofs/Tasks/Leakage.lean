/-
# What stays in the table of tasks

A task leaves the table in one of three ways: it is cleared, its owner drops all
timers, or it is that of a one-shot timer and takes itself out before it runs the
callback.  So a one-shot timer is gone once it has fired, also when its callback
throws.  A repeating timer whose callback throws is gone in none of these ways: its
task is dead and stays, and it is counted as long as nobody clears it (`Leaked`).

The table holds the timers that can fire and those that have leaked, each once
(`active_counts_live_and_leaked`); so the count is that of the timers that can fire
exactly if none has leaked.
-/
import PageTimers.Proofs.Tasks.Cancellation

namespace PageTimers

/-- The timer repeats, its callback has thrown, and since it was handed out it was
neither cleared nor dropped. -/
def Leaked (id : TimerId) (history : List TaskHappening) : Prop :=
  ∃ callback since n, Unstopped id .repeating callback history since ∧
    callback.throwsOn = some (n + 1) ∧ n < startsOf id since

/-- A timer that has leaked cannot fire. -/
theorem Leaked.not_canFire {id : TimerId} {history : List TaskHappening}
    (hids : (history.filterMap TaskHappening.handed?).Nodup) (h : Leaked id history) :
    ¬ CanFire id history := by
  obtain ⟨callback, since, n, hunstopped, hthrows, hlt⟩ := h
  rintro ⟨kind, callback', since', hunstopped', -, hle⟩
  obtain ⟨-, rfl, rfl⟩ := hunstopped.unique hids hunstopped'
  exact absurd (hle n hthrows) (Nat.not_le_of_lt hlt)

namespace StandsFor

variable {task : Task TaskCallback} {kind : TimerKind} {history since : List TaskHappening}

/-- A dead task is that of a repeating timer whose callback has thrown. -/
theorem leaked (h : StandsFor task kind history since) (hdead : task.alive = false) :
    Leaked task.id history := by
  have hthrew : ¬ ∀ n, task.callback.throwsOn = some (n + 1) → startsOf task.id since ≤ n := by
    rw [← h.alive, hdead]
    exact Bool.false_ne_true
  push Not at hthrew
  obtain ⟨n, hthrows, hlt⟩ := hthrew
  cases kind with
  | once =>
      rw [h.unfired rfl] at hlt
      exact absurd hlt (Nat.not_lt_zero n)
  | repeating => exact ⟨task.callback, since, n, h.unstopped, hthrows, hlt⟩

end StandsFor

namespace Accounts

variable {history : List TaskHappening} {clock : TaskClock TaskCallback} {id : TimerId}

/-- A timer has leaked if it has a dead task. -/
theorem leaked_iff (h : Accounts history clock) :
    Leaked id history ↔ ∃ t ∈ clock.tasks, t.id = id ∧ t.alive = false := by
  constructor
  · intro hleaked
    have hcannot := hleaked.not_canFire h.nodup
    obtain ⟨callback, since, n, hunstopped, -, -⟩ := hleaked
    obtain ⟨t, ht, rfl⟩ := h.present hunstopped fun hkind => by cases hkind
    refine ⟨t, ht, rfl, ?_⟩
    rw [← Bool.not_eq_true]
    exact fun halive => hcannot (h.canFire_iff.mpr ⟨t, ht, rfl, halive⟩)
  · rintro ⟨t, ht, rfl, hdead⟩
    obtain ⟨kind, since, hstands⟩ := h.stands t ht
    exact hstands.leaked hdead

end Accounts

namespace TaskClock

/-- The timers whose tasks are in this state, alive or dead. -/
def timersOf (alive : Bool) (clock : TaskClock TaskCallback) : List TimerId :=
  (clock.tasks.filter (·.alive == alive)).map Task.id

theorem mem_timersOf {alive : Bool} {clock : TaskClock TaskCallback} {id : TimerId} :
    id ∈ clock.timersOf alive ↔ ∃ t ∈ clock.tasks, t.id = id ∧ t.alive = alive := by
  constructor
  · intro h
    obtain ⟨t, ht, hid⟩ := List.mem_map.mp h
    obtain ⟨ht, halive⟩ := List.mem_filter.mp ht
    exact ⟨t, ht, hid, beq_iff_eq.mp halive⟩
  · rintro ⟨t, ht, hid, halive⟩
    exact List.mem_map.mpr ⟨t, List.mem_filter.mpr ⟨ht, beq_iff_eq.mpr halive⟩, hid⟩

theorem timersOf_perm (clock : TaskClock TaskCallback) :
    (clock.timersOf true ++ clock.timersOf false).Perm (clock.tasks.map Task.id) := by
  have hdead : clock.tasks.filter (·.alive == false) = clock.tasks.filter fun t => !(t.alive == true) :=
    List.filter_congr fun t _ => by cases t.alive <;> rfl
  rw [timersOf, timersOf, hdead, ← List.map_append]
  exact (List.filter_append_perm _ _).map _

end TaskClock

namespace TaskSite

/-- However timers are handed out, cleared, waited for and dropped, the table holds
the timers that can fire and the repeating ones whose callbacks have thrown, each of
them once.  So the number of tasks is that of the timers that can fire, and of those
that have leaked; without the latter it is exact, and only then. -/
theorem active_counts_live_and_leaked (page : TaskPage) (ops : List TaskOp) :
    let start : TaskSite := ⟨.fresh, page⟩
    let history := start.history ops
    ∃ live leaked : List TimerId, (live ++ leaked).Nodup ∧
      (∀ id, id ∈ live ↔ CanFire id history) ∧ (∀ id, id ∈ leaked ↔ Leaked id history) ∧
      (start.after ops).clock.active = live.length + leaked.length ∧
      ((start.after ops).clock.active = live.length ↔ ∀ id, ¬ Leaked id history) := by
  intro start history
  have hfresh : Accounts [] start.clock := .fresh
  have haccounts : Accounts history (start.after ops).clock := hfresh.after ops
  have hperm := (start.after ops).clock.timersOf_perm
  have hleaked : ∀ id, id ∈ (start.after ops).clock.timersOf false ↔ Leaked id history :=
    fun id => TaskClock.mem_timersOf.trans haccounts.leaked_iff.symm
  have hactive : (start.after ops).clock.active = ((start.after ops).clock.timersOf true).length +
      ((start.after ops).clock.timersOf false).length := by
    rw [← List.length_append, hperm.length_eq, List.length_map]
    rfl
  refine ⟨_, _, hperm.nodup_iff.mpr haccounts.ids,
    fun id => TaskClock.mem_timersOf.trans haccounts.canFire_iff.symm, hleaked, hactive, ?_⟩
  rw [hactive, Nat.add_eq_left, List.length_eq_zero_iff, List.eq_nil_iff_forall_not_mem]
  exact forall_congr' fun id => not_congr (hleaked id)

/-- An interval whose callback throws when it runs first. -/
def faultyOps : List TaskOp :=
  [.schedule .repeating (.ofMillis 10) ⟨"a", none, some 1⟩, .sleep 10]

/-- Then no timer can fire any more, and one is counted. -/
theorem thrown_interval_counted :
    let start : TaskSite := ⟨.fresh, .attach .empty, []⟩
    (start.after faultyOps).clock.active = 1 ∧ ∀ id, ¬ CanFire id (start.history faultyOps) := by
  intro start
  have hfresh : Accounts [] start.clock := .fresh
  have haccounts : Accounts (start.history faultyOps) (start.after faultyOps).clock :=
    hfresh.after faultyOps
  have hdead : ∀ t ∈ (start.after faultyOps).clock.tasks, t.alive = false := by decide +kernel
  refine ⟨by decide +kernel, fun id hfire => ?_⟩
  obtain ⟨t, ht, -, halive⟩ := haccounts.canFire_iff.mp hfire
  rw [hdead t ht] at halive
  cases halive

end TaskSite

end PageTimers
