/-
# Which tasks wake while time passes

To sleep is to go from turn to turn: the task that is due first wakes, its
callback runs, and what is left of the task goes back to sleep or stays in the
table for dead.  A turn touches no other task (`TaskClock.settle_perm`), and
whichever way its callback ends,

    the woken task    is gone, is dead, or wakes a millisecond later at the
                      earliest
    the others        are as they were, and not overdue

so that a task is never overdue (`Timely`), the turns that are left to take get
fewer with each one taken (`turnsLeft`), and there are never more of them than
the sleep provides for.  Hence every live task that is due in a sleep wakes in
it (`mem_wakings`).
-/
import PageTimers.Proofs.Tasks.Lockstep

namespace PageTimers

namespace Task

variable {α : Type}

theorem earliest?_precedes {tasks : List (Task α)} {task : Task α}
    (h : earliest? tasks = some task) : ∀ t ∈ tasks, task.wakesAt ≤ t.wakesAt := by
  intro t ht
  have hslot : QueuedTimer.earliest? (tasks.map slot) = some task.slot := by
    rw [← earliest?_slot, h]
    rfl
  have hle := (QueuedTimer.earliest?_spec hslot).2 t.slot (List.mem_map_of_mem ht)
  rw [QueuedTimer.precedes_iff] at hle
  have hdue : task.wakesAt < t.wakesAt ∨ task.wakesAt = t.wakesAt ∧ task.ticket ≤ t.ticket := hle
  omega

/-- A repeating task whose callback has ended: it goes back to sleep, or it is
dead. -/
def resettled (ended : Ended) (period : Duration) (ticket : Nat) (task : Task α) : Task α :=
  match ended with
  | .thrown => { task with alive := false }
  | .returned => task.again period ticket

/-- What is left of a task whose callback has ended. -/
def afterwards (ended : Ended) (ticket : Nat) (task : Task α) : Option (Task α) :=
  task.period.map fun period => task.resettled ended period ticket

theorem afterwards_of_repeating {task : Task α} {period : Duration} (h : task.period = some period)
    (ended : Ended) (ticket : Nat) :
    task.afterwards ended ticket = some (task.resettled ended period ticket) :=
  Option.map_eq_some_iff.mpr ⟨period, h, rfl⟩

theorem afterwards_of_once {task : Task α} (h : task.period = none) (ended : Ended) (ticket : Nat) :
    task.afterwards ended ticket = none :=
  Option.map_eq_none_iff.mpr h

/-- A task that goes back to sleep does so for a millisecond at least. -/
theorem lt_wakesAt_again {task : Task α} {period : Duration} (h : 1000000 ≤ period.nanoseconds)
    (ticket : Nat) : task.wakesAt < (task.again period ticket).wakesAt := by
  have hdeadline : task.wakesAt * 1000000 < task.deadline + 1000000 := by
    rw [wakesAt]
    omega
  have hnext : task.wakesAt * 1000000 < TaskClock.nextDeadline task period + 1 := by
    rw [TaskClock.nextDeadline]
    split <;> omega
  have hagain : (task.again period ticket).wakesAt =
      (TaskClock.nextDeadline task period + 999999) / 1000000 := rfl
  rw [hagain]
  rw [TaskClock.nextDeadline] at hnext ⊢
  split <;> omega

/-- How often a task can wake by the given time, at most. -/
def turnsBy (limit : Nat) (task : Task α) : Nat :=
  if task.alive then limit + 1 - task.wakesAt else 0

section Afterwards

variable {task after : Task α} {ended : Ended} {ticket : Nat}
  (h : task.afterwards ended ticket = some after)

include h

theorem afterwards_id : after.id = task.id := by
  obtain ⟨period, -, rfl⟩ := Option.map_eq_some_iff.mp h
  cases ended <;> rfl

theorem afterwards_period : after.period = task.period := by
  obtain ⟨period, -, rfl⟩ := Option.map_eq_some_iff.mp h
  cases ended <;> rfl

theorem afterwards_ticket : after.ticket = task.ticket ∨ after.ticket = ticket := by
  obtain ⟨period, -, rfl⟩ := Option.map_eq_some_iff.mp h
  cases ended
  · exact Or.inr rfl
  · exact Or.inl rfl

theorem lt_wakesAt_afterwards (hperiod : ∀ p, task.period = some p → 1000000 ≤ p.nanoseconds)
    (halive : after.alive = true) : task.wakesAt < after.wakesAt := by
  obtain ⟨period, hp, rfl⟩ := Option.map_eq_some_iff.mp h
  cases ended with
  | thrown => cases halive
  | returned => exact lt_wakesAt_again (hperiod period hp) ticket

end Afterwards

end Task

namespace TaskClock

variable {α ω : Type} {clock : TaskClock α} {limit : Nat} {task : Task α}

theorem next?_spec (h : clock.next? limit = some task) :
    task ∈ clock.tasks ∧ task.alive = true ∧ task.wakesAt ≤ limit ∧
      ∀ t ∈ clock.tasks, t.alive = true → task.wakesAt ≤ t.wakesAt := by
  obtain ⟨hmem, hlive⟩ := List.mem_filter.mp (Task.mem_of_earliest? h)
  obtain ⟨halive, hdue⟩ := Bool.and_eq_true_iff.mp hlive
  have hdue : task.wakesAt ≤ limit := of_decide_eq_true hdue
  refine ⟨hmem, halive, hdue, fun t ht ht' => ?_⟩
  by_cases hlate : t.wakesAt ≤ limit
  · exact Task.earliest?_precedes h t (List.mem_filter.mpr ⟨ht, by simp [ht', hlate]⟩)
  · omega

theorem lt_wakesAt_of_next? (h : clock.next? limit = none) :
    ∀ t ∈ clock.tasks, t.alive = true → limit < t.wakesAt := by
  intro t ht halive
  have hnone : clock.tasks.filter (fun task => task.alive && task.wakesAt ≤ limit) = [] := by
    cases hdue : clock.tasks.filter (fun task => task.alive && task.wakesAt ≤ limit) with
    | nil => rfl
    | cons first rest =>
        rw [next?, hdue] at h
        cases h
  have hlate := List.filter_eq_nil_iff.mp hnone t ht
  rw [halive, Bool.true_and, decide_eq_true_eq] at hlate
  omega

theorem exists_next? {t : Task α} (ht : t ∈ clock.tasks) (halive : t.alive = true)
    (hdue : t.wakesAt ≤ limit) : ∃ task, clock.next? limit = some task := by
  cases hnext : clock.next? limit with
  | some task => exact ⟨task, rfl⟩
  | none =>
      have hlate := lt_wakesAt_of_next? hnext t ht halive
      omega

/-- A turn touches the task that wakes, and no other. -/
theorem settle_perm (hmem : task ∈ clock.tasks) (htickets : (clock.tasks.map Task.ticket).Nodup)
    (ended : Ended) :
    clock.tasks.Perm (task :: clock.tasks.filter (·.ticket != task.ticket)) ∧
    ((clock.wake task).settle task ended).tasks.Perm
      ((task.afterwards ended (clock.lastTicket + 1)).toList ++
        clock.tasks.filter (·.ticket != task.ticket)) := by
  constructor
  · have hsame : (clock.tasks.map fun t => if t.ticket = task.ticket then task else t) =
        clock.tasks := by
      refine (List.map_congr_left fun t ht => ?_).trans (List.map_id _)
      split
      · next hticket => exact List.inj_on_of_nodup_map htickets hmem ht hticket.symm
      · rfl
    have hperm := map_replace_perm Task.ticket (b := task) hmem htickets
    rwa [hsame] at hperm
  · cases hperiod : task.period with
    | none =>
        rw [Task.afterwards_of_once hperiod]
        simp [settle, wake, hperiod]
    | some period =>
        have hwake : (clock.wake task).tasks = clock.tasks := by simp [wake, hperiod]
        rw [Task.afterwards_of_repeating hperiod ended, settle]
        split
        · next hnone => cases hperiod.symm.trans hnone
        · next p hp =>
          cases hperiod.symm.trans hp
          rw [hwake]
          cases ended <;> exact map_replace_perm Task.ticket hmem htickets

section Settle

variable (task : Task α) (ended : Ended) (clock : TaskClock α)

theorem settle_now : ((clock.wake task).settle task ended).now = max clock.now task.wakesAt := by
  unfold settle
  split <;> rfl

theorem settle_lastId : ((clock.wake task).settle task ended).lastId = clock.lastId := by
  unfold settle
  split <;> rfl

theorem le_settle_lastTicket :
    clock.lastTicket ≤ ((clock.wake task).settle task ended).lastTicket := by
  unfold settle
  split
  · exact Nat.le_refl _
  · exact Nat.le_succ _

variable {task ended clock}

theorem afterwards_ticket_le {after : Task α}
    (h : task.afterwards ended (clock.lastTicket + 1) = some after)
    (hticket : task.ticket ≤ clock.lastTicket) :
    after.ticket ≤ ((clock.wake task).settle task ended).lastTicket := by
  obtain ⟨period, hperiod, -⟩ := Option.map_eq_some_iff.mp h
  have hlast : ((clock.wake task).settle task ended).lastTicket = clock.lastTicket + 1 := by
    rw [settle, hperiod]
    rfl
  rcases Task.afterwards_ticket h with hsame | hnew <;> omega

end Settle

/-- No two tasks have the same place, none is overdue, and none wakes twice in a
millisecond. -/
structure Timely (clock : TaskClock α) : Prop where
  tickets : (clock.tasks.map Task.ticket).Nodup
  tickets_le : ∀ t ∈ clock.tasks, t.ticket ≤ clock.lastTicket
  now_le : ∀ t ∈ clock.tasks, t.alive = true → clock.now ≤ t.wakesAt
  period : ∀ t ∈ clock.tasks, ∀ p, t.period = some p → 1000000 ≤ p.nanoseconds

namespace Timely

theorem fresh : (fresh : TaskClock α).Timely :=
  ⟨List.nodup_nil, fun _ h => absurd h List.not_mem_nil, fun _ h => absurd h List.not_mem_nil,
    fun _ h => absurd h List.not_mem_nil⟩

theorem of_sublist (h : clock.Timely) {tasks : List (Task α)} (hsub : tasks.Sublist clock.tasks) :
    Timely { clock with tasks } where
  tickets := h.tickets.sublist (hsub.map _)
  tickets_le t ht := h.tickets_le t (hsub.subset ht)
  now_le t ht := h.now_le t (hsub.subset ht)
  period t ht := h.period t (hsub.subset ht)

theorem schedule (h : clock.Timely) (kind : TimerKind) (callback : α) (delay : Duration) :
    (clock.schedule kind callback delay).2.Timely where
  tickets := by
    refine List.nodup_cons.mpr ⟨fun hmem => ?_, h.tickets⟩
    obtain ⟨t, ht, hticket⟩ := List.mem_map.mp hmem
    have hle := h.tickets_le t ht
    have hsame : t.ticket = clock.lastTicket + 1 := hticket
    omega
  tickets_le := List.forall_mem_cons.mpr
    ⟨Nat.le_refl _, fun t ht => Nat.le_succ_of_le (h.tickets_le t ht)⟩
  now_le := by
    refine List.forall_mem_cons.mpr ⟨fun _ => ?_, h.now_le⟩
    show clock.now ≤ (clock.now * 1000000 + _ + 999999) / 1000000
    omega
  period := by
    refine List.forall_mem_cons.mpr ⟨fun p hp => ?_, h.period⟩
    cases kind with
    | once => cases hp
    | repeating =>
        cases hp
        exact Nat.le_max_left _ _

theorem turn (h : clock.Timely) (hnext : clock.next? limit = some task) (ended : Ended) :
    ((clock.wake task).settle task ended).Timely := by
  obtain ⟨hmem, halive, hdue, hfirst⟩ := next?_spec hnext
  have hperm := (settle_perm hmem h.tickets ended).2
  have hnow : ((clock.wake task).settle task ended).now = task.wakesAt := by
    rw [settle_now]
    exact Nat.max_eq_right (h.now_le task hmem halive)
  have hcases : ∀ t ∈ ((clock.wake task).settle task ended).tasks,
      task.afterwards ended (clock.lastTicket + 1) = some t ∨ t ∈ clock.tasks := by
    intro t ht
    rcases List.mem_append.mp (hperm.subset ht) with hafter | hrest
    · exact Or.inl (Option.mem_toList.mp hafter)
    · exact Or.inr (List.mem_filter.mp hrest).1
  refine ⟨?_, fun t ht => ?_, fun t ht htalive => ?_, fun t ht => ?_⟩
  · rw [(hperm.map Task.ticket).nodup_iff]
    have hrest : ((clock.tasks.filter (·.ticket != task.ticket)).map Task.ticket).Nodup :=
      h.tickets.sublist (List.filter_sublist.map _)
    cases hafter : task.afterwards ended (clock.lastTicket + 1) with
    | none => exact hrest
    | some after =>
        refine List.nodup_cons.mpr ⟨fun hticket => ?_, hrest⟩
        obtain ⟨t, ht, hsame⟩ := List.mem_map.mp hticket
        obtain ⟨ht, hother⟩ := List.mem_filter.mp ht
        have hother : t.ticket ≠ task.ticket := bne_iff_ne.mp hother
        have hle := h.tickets_le t ht
        rcases Task.afterwards_ticket hafter with hold | hnew <;> omega
  · rcases hcases t ht with hafter | hold
    · exact afterwards_ticket_le hafter (h.tickets_le task hmem)
    · exact Nat.le_trans (h.tickets_le t hold) (le_settle_lastTicket task ended clock)
  · rw [hnow]
    rcases hcases t ht with hafter | hold
    · exact Nat.le_of_lt (Task.lt_wakesAt_afterwards hafter (h.period task hmem) htalive)
    · exact hfirst t hold htalive
  · rcases hcases t ht with hafter | hold
    · rw [Task.afterwards_period hafter]
      exact h.period task hmem
    · exact h.period t hold

end Timely

/-! ## Turns -/

section Turns

variable (call : α → (now count : Nat) → ω → Ended × ω)

/-- The clock and the world after a turn. -/
def turn (task : Task α) (clock : TaskClock α) (world : ω) : TaskClock α × ω :=
  let awake := clock.wake task
  let (ended, world) := call task.callback awake.now task.runs world
  (awake.settle task ended, world)

/-- The tasks that wake by the given time in at most `left` turns, in order. -/
def wakings (limit : Nat) : (left : Nat) → TaskClock α → ω → List (Task α)
  | 0, _, _ => []
  | left + 1, clock, world =>
    match clock.next? limit with
    | none => []
    | some task =>
      let (clock, world) := turn call task clock world
      task :: wakings limit left clock world

/-- The tasks that wake in a sleep. -/
def wakingsIn (span : Nat) (clock : TaskClock α) (world : ω) : List (Task α) :=
  wakings call (clock.now + span) (clock.turnsBound (clock.now + span)) clock world

variable {call}

theorem turns_journal (left : Nat) (clock : TaskClock α) (world : ω)
    (journal : List (Event TimerId)) :
    (turns call limit left clock world journal).journal =
      ((wakings call limit left clock world).map wakeEvent).reverse ++ journal := by
  induction left generalizing clock world journal with
  | zero => rfl
  | succ left ih =>
      rw [turns, wakings]
      cases clock.next? limit with
      | none => rfl
      | some task =>
          simp only [ih, turn]
          simp

/-- Whatever a turn keeps holds when the turns are over. -/
theorem turns_induction {I : TaskClock α → Prop}
    (hturn : ∀ clock task ended, I clock → clock.next? limit = some task →
      I ((clock.wake task).settle task ended)) (left : Nat) {clock : TaskClock α} (h : I clock)
    (world : ω) (journal : List (Event TimerId)) :
    I (turns call limit left clock world journal).clock := by
  induction left generalizing clock world journal with
  | zero => exact h
  | succ left ih =>
      rw [turns]
      cases hnext : clock.next? limit with
      | none => exact h
      | some task => exact ih (hturn clock task _ h hnext) _ _

end Turns

/-! ## Enough turns -/

/-- How many turns there can be by the given time. -/
def turnsLeft (limit : Nat) (clock : TaskClock α) : Nat :=
  (clock.tasks.map (Task.turnsBy limit)).sum

theorem Timely.turnsLeft_le (h : clock.Timely) (limit : Nat) :
    clock.turnsLeft limit ≤ clock.turnsBound limit := by
  have hsum : clock.turnsLeft limit ≤
      (clock.tasks.map (Task.turnsBy limit)).length • (limit - clock.now + 1) := by
    refine List.sum_le_card_nsmul _ _ fun n hn => ?_
    obtain ⟨t, ht, rfl⟩ := List.mem_map.mp hn
    rw [Task.turnsBy]
    split
    · next halive =>
      have hnow := h.now_le t ht halive
      omega
    · exact Nat.zero_le _
  rw [List.length_map, Nat.nsmul_eq_mul] at hsum
  exact Nat.le_trans hsum (Nat.mul_le_mul_left _ (Nat.le_succ _))

/-- With each turn there are fewer to come. -/
theorem Timely.turnsLeft_turn (h : clock.Timely) (hnext : clock.next? limit = some task)
    (ended : Ended) :
    ((clock.wake task).settle task ended).turnsLeft limit < clock.turnsLeft limit := by
  obtain ⟨hmem, halive, hdue, -⟩ := next?_spec hnext
  obtain ⟨hbefore, hafter⟩ := settle_perm hmem h.tickets ended
  have htask : Task.turnsBy limit task = limit + 1 - task.wakesAt := if_pos halive
  rw [turnsLeft, turnsLeft, (hbefore.map (Task.turnsBy limit)).sum_eq,
    (hafter.map (Task.turnsBy limit)).sum_eq, List.map_cons, List.sum_cons, htask]
  cases hleft : task.afterwards ended (clock.lastTicket + 1) with
  | none =>
      rw [Option.toList_none, List.nil_append]
      omega
  | some after =>
      have hless : Task.turnsBy limit after < limit + 1 - task.wakesAt := by
        rw [Task.turnsBy]
        split
        · next hafter =>
          have hlater := Task.lt_wakesAt_afterwards hleft (h.period task hmem) hafter
          omega
        · omega
      rw [Option.toList_some, List.singleton_append, List.map_cons, List.sum_cons]
      omega

section Sleep

variable {call : α → (now count : Nat) → ω → Ended × ω}

/-- With enough turns, none that are due are left. -/
theorem Timely.next?_turns (left : Nat) {clock : TaskClock α} (h : clock.Timely)
    (hleft : clock.turnsLeft limit ≤ left) (world : ω) (journal : List (Event TimerId)) :
    (turns call limit left clock world journal).clock.next? limit = none := by
  induction left generalizing clock world journal with
  | zero =>
      rw [turns]
      cases hnext : clock.next? limit with
      | none => rfl
      | some task =>
          have hfewer := h.turnsLeft_turn hnext .returned
          omega
  | succ left ih =>
      rw [turns]
      cases hnext : clock.next? limit with
      | none => exact hnext
      | some task =>
          have hfewer := h.turnsLeft_turn hnext
            (call task.callback (clock.wake task).now task.runs world).1
          exact ih (h.turn hnext _) (by omega) _ _

/-- A live task that is due wakes. -/
theorem Timely.mem_wakings (left : Nat) {clock : TaskClock α} (h : clock.Timely)
    (hleft : clock.turnsLeft limit ≤ left) {t : Task α} (ht : t ∈ clock.tasks)
    (halive : t.alive = true) (hdue : t.wakesAt ≤ limit) (world : ω) :
    ∃ w ∈ wakings call limit left clock world, w.id = t.id := by
  induction left generalizing clock world with
  | zero =>
      obtain ⟨task, hnext⟩ := exists_next? ht halive hdue
      have hfewer := h.turnsLeft_turn hnext .returned
      omega
  | succ left ih =>
      obtain ⟨task, hnext⟩ := exists_next? ht halive hdue
      rw [wakings, hnext]
      by_cases hid : task.id = t.id
      · exact ⟨task, List.mem_cons_self, hid⟩
      · -- it is another task that wakes, so `t` waits as before
        have hmem := (next?_spec hnext).1
        have hticket : t.ticket ≠ task.ticket := fun hsame =>
          hid (congrArg Task.id (List.inj_on_of_nodup_map h.tickets hmem ht hsame.symm))
        have hstays : t ∈ (TaskClock.turn call task clock world).1.tasks :=
          (settle_perm hmem h.tickets _).2.symm.subset (List.mem_append_right _
            (List.mem_filter.mpr ⟨ht, bne_iff_ne.mpr hticket⟩))
        have hfewer := h.turnsLeft_turn hnext
          (call task.callback (clock.wake task).now task.runs world).1
        obtain ⟨w, hw, hwid⟩ := ih (h.turn hnext _) (by omega) hstays _
        exact ⟨w, List.mem_cons_of_mem _ hw, hwid⟩

/-- No task is overdue when a sleep is over. -/
theorem Timely.sleep (h : clock.Timely) (span : Nat) (world : ω) (journal : List (Event TimerId)) :
    (clock.sleep call span world journal).clock.Timely := by
  let limit := clock.now + span
  let last := turns call limit (clock.turnsBound limit) clock world journal
  have hturns : last.clock.Timely :=
    turns_induction (fun _ _ ended hI hnext => hI.turn hnext ended) _ h world journal
  have hnone : last.clock.next? limit = none :=
    h.next?_turns _ (h.turnsLeft_le _) world journal
  refine ⟨hturns.tickets, hturns.tickets_le, fun t ht halive => ?_, hturns.period⟩
  have hnow := hturns.now_le t ht halive
  have hlate := lt_wakesAt_of_next? hnone t ht halive
  exact Nat.max_le.mpr ⟨hnow, Nat.le_of_lt hlate⟩

end Sleep

end TaskClock

end PageTimers
