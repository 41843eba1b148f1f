/-
# Which timers are live

A report tells how many timers wait, and whether a step that asked to cancel
one has found it.  Both are what the clock says, which has a queue to look at.
A reader of the scenario has no queue, but knows

    which step was handed an identifier,
    which later steps have asked to cancel it, by its number or by a label that
    stood for it then, and
    what the clock showed when each advance was over;

and by these alone an identifier is live or not (`Live`).  An advance ends a
one-shot timer if the clock shows its due time then, so a timer without any
delay stays live until the next advance, be it one by nothing.

The queue falls into two halves.  The one-shot timers that wait are those whose
writes are still to come (`Defers.waiting`).  The repeating ones come back after
each turn, so that nothing but a step that cancels takes them out (`Repeats`).
-/
import PageTimers.Proofs.Clock.Clearing
import PageTimers.Proofs.Scenario.Completion

namespace PageTimers

/-! ## By the steps -/

namespace Step

def asksToCancel : Step → Bool
  | cancelOnce _ => true
  | cancelRepeating _ => true
  | cancelId _ => true
  | _ => false

end Step

namespace Scheduling

/-- It repeats, and has not been cancelled. -/
def repeats (s : Scheduling) : Bool := s.kind == .repeating && !s.isCancelled

/-- It is to fire some time. -/
def pends (s : Scheduling) : Bool := s.awaitsOnce || s.repeats

variable {s : Scheduling} {step : Step}

theorem repeats_onward :
    (s.onward [step]).repeats = (s.repeats && !step.cancels s.id s.label) := by
  rw [repeats, isCancelled_onward, Bool.not_or, ← Bool.and_assoc]
  rfl

theorem pends_iff : s.pends = true ↔
    s.isCancelled = false ∧ (s.kind = .once → s.hasCome = false) := by
  rw [pends, awaitsOnce, repeats]
  cases s.kind <;> simp

end Scheduling

/-! ## By the stage -/

namespace VirtualClock

variable {α : Type} {clock : VirtualClock α} {id : TimerId}

theorem mem_recurring_schedule (kind : TimerKind) (callback : α) (delay : Duration) :
    id ∈ (clock.schedule kind callback delay).2.recurring ↔
      kind = .repeating ∧ id = ⟨clock.lastId + 1⟩ ∨ id ∈ clock.recurring := by
  have hnew : (clock.scheduledTimer kind callback delay).isOnce = false ∧
      (clock.scheduledTimer kind callback delay).id = id ↔
        kind = .repeating ∧ id = ⟨clock.lastId + 1⟩ := by
    cases kind <;> simp [scheduledTimer, QueuedTimer.isOnce, periodOf, eq_comm]
  simp only [mem_recurring, schedule_queue, List.mem_cons, exists_eq_or_imp, hnew]

theorem mem_recurring_cancel (other : TimerId) :
    id ∈ (clock.cancel other).2.recurring ↔ id ∈ clock.recurring ∧ id ≠ other := by
  simp only [mem_recurring, mem_cancel_queue]
  constructor
  · rintro ⟨t, ⟨ht, hne⟩, hrepeats, rfl⟩
    exact ⟨⟨t, ht, hrepeats, rfl⟩, hne⟩
  · rintro ⟨⟨t, ht, hrepeats, rfl⟩, hne⟩
    exact ⟨t, ⟨ht, hne⟩, hrepeats, rfl⟩

theorem recurring_reach (goal : Goal) : (clock.reach goal).recurring = clock.recurring := by
  rw [recurring, waiting, reach_queue]
  rfl

end VirtualClock

/-- The one-shot timers that wait, by the steps. -/
theorem Defers.once_iff {steps : List Step} {stage : Stage} (h : Defers steps stage) {id : TimerId} :
    id ∈ stage.clock.onceWaiting.map (·.id) ↔
      ∃ s ∈ schedulings 0 0 steps, s.awaitsOnce = true ∧ id = ⟨s.id⟩ := by
  have hids : stage.clock.onceWaiting.reverse.map (·.id) =
      ((schedulings 0 0 steps).filter (·.awaitsOnce)).map fun s => ⟨s.id⟩ := by
    have houtline := congrArg (List.map (·.1)) h.waiting
    rw [List.map_map, List.map_map] at houtline
    rw [← map_timer_deferrals, List.filter_map, List.map_map]
    exact houtline
  rw [← List.mem_reverse, ← List.map_reverse, hids, List.mem_map]
  simp only [List.mem_filter, and_assoc, @eq_comm _ id]

/-- The repeating timers that wait are those that the steps have scheduled and
not cancelled. -/
def Repeats (steps : List Step) (stage : Stage) : Prop :=
  ∀ id, id ∈ stage.clock.recurring ↔
    ∃ s ∈ schedulings 0 0 steps, s.repeats = true ∧ id = ⟨s.id⟩

namespace Repeats

variable {settings : Settings} {steps : List Step} {step : Step} {stage stage' : Stage}

section Step

variable (h : Repeats steps stage) (hnamed : Named steps stage)

include h hnamed

/-- A step that schedules nothing leaves those that it does not ask to cancel. -/
theorem unscheduled (hschedules : step.schedules? = none)
    (hrecurring : ∀ id, id ∈ stage'.clock.recurring ↔
      id ∈ stage.clock.recurring ∧ step.target? stage.labels ≠ some id) :
    Repeats (steps ++ [step]) stage' := by
  have honward : ∀ s ∈ schedulings 0 0 steps, (s.onward [step]).repeats = true ↔
      s.repeats = true ∧ step.target? stage.labels ≠ some ⟨s.id⟩ := by
    intro s hs
    rw [ne_eq, ← hnamed.cancels_iff step hs, Scheduling.repeats_onward, Bool.and_eq_true,
      Bool.not_eq_true', Bool.not_eq_true]
  intro id
  rw [hrecurring, h, Named.schedulings_append_of_none hschedules]
  constructor
  · rintro ⟨⟨s, hs, hrepeats, rfl⟩, htarget⟩
    exact ⟨s.onward [step], List.mem_map_of_mem hs, (honward s hs).mpr ⟨hrepeats, htarget⟩, rfl⟩
  · rintro ⟨_, hmem, hrepeats, rfl⟩
    obtain ⟨s, hs, rfl⟩ := List.mem_map.mp hmem
    obtain ⟨hrepeats, htarget⟩ := (honward s hs).mp hrepeats
    exact ⟨⟨s, hs, hrepeats, rfl⟩, htarget⟩

/-- A step that neither schedules nor cancels. -/
theorem idle (hschedules : step.schedules? = none) (htarget : step.target? stage.labels = none)
    (hrecurring : ∀ id, id ∈ stage'.clock.recurring ↔ id ∈ stage.clock.recurring) :
    Repeats (steps ++ [step]) stage' := by
  refine h.unscheduled hnamed hschedules fun id => ?_
  rw [hrecurring, htarget]
  exact (and_iff_left (Option.some_ne_none id).symm).symm

theorem schedule {kind : TimerKind} {label : String} {millis : Nat} {delay : Duration}
    (hschedules : step.schedules? = some (kind, label, millis))
    (hclock : stage'.clock = (stage.clock.schedule kind step.sets? delay).2) :
    Repeats (steps ++ [step]) stage' := by
  have honward : ∀ s : Scheduling, (s.onward [step]).repeats = s.repeats := by
    intro s
    have hcancels : step.cancels s.id s.label = false := by
      cases step <;> first | rfl | cases hschedules
    rw [Scheduling.repeats_onward, hcancels, Bool.not_false, Bool.and_true]
  intro id
  rw [hclock, VirtualClock.mem_recurring_schedule, h, hnamed.schedulings_append_of_some hschedules]
  constructor
  · rintro (⟨rfl, rfl⟩ | ⟨s, hs, hrepeats, rfl⟩)
    · exact ⟨_, List.mem_append_right _ List.mem_cons_self, rfl, rfl⟩
    · exact ⟨s.onward [step], List.mem_append_left _ (List.mem_map_of_mem hs),
        (honward s).trans hrepeats, rfl⟩
  · rintro ⟨_, hmem, hrepeats, rfl⟩
    rcases List.mem_append.mp hmem with hmem | hmem
    · obtain ⟨s, hs, rfl⟩ := List.mem_map.mp hmem
      exact Or.inr ⟨s, hs, (honward s).symm.trans hrepeats, rfl⟩
    · obtain rfl := List.mem_singleton.mp hmem
      rw [Scheduling.repeats, Bool.and_eq_true, beq_iff_eq] at hrepeats
      exact Or.inl ⟨hrepeats.1, rfl⟩

end Step

/-- No step but one that cancels takes a repeating timer out. -/
theorem apply (h : Repeats steps stage) (hdefers : Defers steps stage)
    (happlied : Applied settings stage step stage') : Repeats (steps ++ [step]) stage' := by
  have hnamed := hdefers.named
  cases happlied with
  | install | monitor | set => exact h.idle hnamed rfl rfl fun _ => Iff.rfl
  | schedule kind label delay hschedules _ => exact h.schedule hnamed hschedules rfl
  | cancel kind id htarget =>
      refine h.unscheduled hnamed (Step.of_target? htarget).1 fun other => ?_
      rw [htarget, ne_eq, Option.some.injEq, @eq_comm _ id]
      exact VirtualClock.mem_recurring_cancel id
  | advance ms count hresult =>
      -- the repeating timers that are taken are put back
      obtain ⟨hlast, timers, htook⟩ := Stage.took_of_drained hresult
      obtain ⟨clock', htakes, hclock⟩ := htook.takes
      have hgoal : (VirtualClock.Goal.advance ms.toNat (stage.clock.now + ms.toNat)).InTime := hlast
      refine h.idle hnamed rfl rfl fun id => ?_
      rw [Stage.after_clock, hclock, VirtualClock.recurring_reach]
      exact (htakes.recurring_perm hgoal hdefers.tidy).mem_iff

end Repeats

/-! ### Steps that cancel -/

namespace Step

variable {settings : Settings} {step : Step} {stage : Stage} {answer : StepAnswer}

/-- A step that cancels asks the clock, whichever kind of call it is. -/
theorem answer_of_cancel (hcancel : step.asksToCancel = true)
    (h : (step.apply settings stage).result = .ok answer) :
    ∃ id, step.target? stage.labels = some id ∧
      answer.cancelled = some (stage.clock.cancel id).1 ∧
      (step.apply settings stage).stage.clock = (stage.clock.cancel id).2 := by
  have hlabelled : ∀ kind label, (cancelAs kind (stage.labelled label) stage).result = .ok answer →
      ∃ id, stage.labels.get? label = some id ∧
        answer.cancelled = some (stage.clock.cancel id).1 ∧
        (cancelAs kind (stage.labelled label) stage).stage.clock = (stage.clock.cancel id).2 := by
    intro kind label h
    rw [Stage.labelled] at h ⊢
    cases hid : stage.labels.get? label with
    | none =>
        rw [hid] at h
        cases h
    | some id =>
        rw [hid] at h
        cases h
        exact ⟨id, rfl, rfl, rfl⟩
  cases step with
  | cancelOnce label => exact hlabelled .once label h
  | cancelRepeating label => exact hlabelled .repeating label h
  | cancelId id =>
      cases h
      exact ⟨⟨id.toNat⟩, rfl, rfl, rfl⟩
  | _ => cases hcancel

theorem answer_of_not_cancel (hcancel : step.asksToCancel = false)
    (h : (step.apply settings stage).result = .ok answer) : answer.cancelled = none := by
  cases step with
  | cancelOnce | cancelRepeating | cancelId => cases hcancel
  | advance ms =>
      rw [apply_advance] at h
      cases hresult : (stage.drained settings ms).result with
      | error e =>
          rw [hresult] at h
          cases h
      | ok count =>
          rw [hresult] at h
          cases h
          rfl
  | _ =>
      cases h
      rfl

end Step

/-! ## Along a run -/

namespace Scenario

variable {settings : Settings} {scenario : Scenario} {count index : Nat} {report : StepReport}
  {id : TimerId}

/-- What the clock shows when so many steps have been taken. -/
def clockAfter (settings : Settings) (scenario : Scenario) (count : Nat) : Nat :=
  (scenario.upTo settings count).stage.clock.now

/-- The step at `giver` was handed the identifier, and none of the steps since,
until so many have been taken, has ended its timer. -/
structure LiveSince (settings : Settings) (scenario : Scenario) (count giver : Nat)
    (kind : TimerKind) (label : String) (millis : Nat) (id : TimerId) : Prop where
  given : giver < count
  schedules : scenario.steps[giver]?.bind Step.schedules? = some (kind, label, millis)
  /-- It is what the label of the step stands for then. -/
  handed : (scenario.upTo settings (giver + 1)).stage.labels.get? label = some id
  uncancelled : ∀ later step, giver < later → later < count →
    scenario.steps[later]? = some step →
      step.target? (scenario.upTo settings later).stage.labels ≠ some id
  /-- A one-shot timer is over with the first advance that comes to its due
  time. -/
  early : kind = .once → ∀ later ms, giver < later → later < count →
    scenario.steps[later]? = some (.advance ms) →
      scenario.clockAfter settings (later + 1) <
        saturatingAdd (scenario.clockAfter settings giver) millis

/-- When so many steps have been taken, the timer of this identifier can still
fire. -/
def Live (settings : Settings) (scenario : Scenario) (count : Nat) (id : TimerId) : Prop :=
  ∃ giver kind label millis, scenario.LiveSince settings count giver kind label millis id

theorem not_live_zero : ¬ scenario.Live settings 0 id := by
  rintro ⟨giver, kind, label, millis, h⟩
  exact Nat.not_lt_zero _ h.given

namespace Reports

section Stages

variable (h : scenario.Reports settings index report)

include h

theorem repeats (hcount : count ≤ index + 1) :
    Repeats (scenario.steps.take count) (scenario.upTo settings count).stage := by
  induction count with
  | zero =>
      refine fun id => iff_of_false List.not_mem_nil ?_
      rintro ⟨s, hs, -⟩
      exact absurd hs List.not_mem_nil
  | succ count ih =>
      -- the step to come is one that is reported
      have hbefore : count ≤ index := Nat.le_of_succ_le_succ hcount
      obtain ⟨previous, hprevious⟩ := h.earlier hbefore
      obtain ⟨step, answer, hstep, hanswer, -, hstage⟩ := hprevious.shows
      have hafter : Repeats (scenario.steps.take count ++ [step])
          (step.apply settings (scenario.upTo settings count).stage).stage :=
        (ih (Nat.le_succ_of_le hbefore)).apply (h.defers (Nat.le_succ_of_le hbefore))
          (Step.applied hanswer)
      rw [List.take_add_one, hstep, Option.toList_some, hstage]
      exact hafter

/-- What waits, by the steps. -/
theorem waits_iff (hcount : count ≤ index + 1) :
    id ∈ (scenario.upTo settings count).stage.clock.queue.map (·.id) ↔
      ∃ s ∈ schedulings 0 0 (scenario.steps.take count), s.pends = true ∧ id = ⟨s.id⟩ := by
  rw [VirtualClock.mem_ids_iff, (h.defers hcount).once_iff, h.repeats hcount]
  simp only [Scheduling.pends, Bool.or_eq_true, or_and_right, and_or_left, exists_or]

theorem clockAfter_eq (hcount : count ≤ index + 1) :
    scenario.clockAfter settings count = elapsed (scenario.steps.take count) :=
  (h.defers hcount).now

section Scheduled

variable {giver : Nat} {s : Scheduling}
  (hs : ScheduledAt 0 0 (scenario.steps.take (index + 1)) giver s)

include hs

theorem dueAt_eq : s.dueAt = saturatingAdd (scenario.clockAfter settings giver) s.millis := by
  have hgiver := (bind_take_iff.mp hs.schedules).1
  rw [Scheduling.dueAt, hs.time, List.take_take, Nat.min_eq_left (Nat.le_of_lt hgiver),
    h.clockAfter_eq (Nat.le_of_lt hgiver), Nat.zero_add]

/-- Every advance until then has left the clock short of the due time. -/
theorem hasCome_iff : s.hasCome = false ↔ ∀ later ms, giver < later → later ≤ index →
    scenario.steps[later]? = some (.advance ms) →
      scenario.clockAfter settings (later + 1) < s.dueAt := by
  have hclock : ∀ place, giver + 1 + place ≤ index →
      scenario.clockAfter settings (giver + 1 + place + 1) =
        s.time + elapsed (s.since.take (place + 1)) := by
    intro place hle
    rw [h.clockAfter_eq (Nat.succ_le_succ hle), hs.time_add_elapsed_since hle]
  rw [← Bool.not_eq_true, PageTimers.hasCome_iff]
  constructor
  · intro hnone later ms hlt hle hat
    obtain ⟨place, rfl⟩ := Nat.exists_eq_add_of_le (Nat.succ_le_of_lt hlt)
    rw [hclock place hle]
    by_contra hdue
    exact hnone ⟨place, ms, hs.getElem?_since.mpr ⟨hle, hat⟩, Nat.le_of_not_lt hdue⟩
  · rintro hearly ⟨place, ms, hat, hdue⟩
    obtain ⟨hle, hat⟩ := hs.getElem?_since.mp hat
    have hlt := hearly (giver + 1 + place) ms (by omega) hle hat
    rw [hclock place hle] at hlt
    exact Nat.not_lt_of_le hdue hlt

/-- A timer that is to fire some time is live under its number, and no other. -/
theorem liveSince_iff : scenario.LiveSince settings (index + 1) giver s.kind s.label s.millis id ↔
    s.pends = true ∧ id = ⟨s.id⟩ := by
  obtain ⟨hgiver, hschedules⟩ := bind_take_iff.mp hs.schedules
  have hle : giver ≤ index := Nat.le_of_lt_succ hgiver
  have hlabel : (scenario.upTo settings (giver + 1)).stage.labels.get? s.label = some ⟨s.id⟩ := by
    have hgives := (gives_take_iff.mp ((exists_scheduledAt_iff 0 0).mp ⟨s, hs, rfl⟩)).2
    rw [hs.id, Nat.zero_add, numberAt_take hgiver]
    exact (h.labels_iff hgiver).mpr ⟨giver, Nat.lt_succ_self _, hgives, rfl⟩
  rw [Scheduling.pends_iff, h.isCancelled_iff hle hs, h.hasCome_iff hs, h.dueAt_eq hs]
  constructor
  · rintro ⟨-, -, hhanded, huncancelled, hearly⟩
    obtain rfl : ⟨s.id⟩ = id := Option.some.inj (hlabel.symm.trans hhanded)
    simp only [Nat.lt_succ_iff] at huncancelled hearly
    exact ⟨⟨huncancelled, hearly⟩, rfl⟩
  · rintro ⟨⟨huncancelled, hearly⟩, rfl⟩
    refine ⟨hgiver, hschedules, hlabel, ?_, ?_⟩
    · simpa only [Nat.lt_succ_iff] using huncancelled
    · simpa only [Nat.lt_succ_iff] using hearly

end Scheduled

/-- What is live is what waits. -/
theorem live_iff : scenario.Live settings (index + 1) id ↔
    id ∈ (scenario.upTo settings (index + 1)).stage.clock.queue.map (·.id) := by
  rw [h.waits_iff (Nat.le_refl _)]
  constructor
  · rintro ⟨giver, kind, label, millis, hlive⟩
    obtain ⟨s, hs, rfl, rfl, rfl⟩ := exists_scheduledAt 0 0
      (bind_take_iff.mpr ⟨hlive.given, hlive.schedules⟩)
    exact ⟨s, mem_schedulings_iff.mpr ⟨giver, hs⟩, (h.liveSince_iff hs).mp hlive⟩
  · rintro ⟨s, hs, hpends⟩
    obtain ⟨giver, hs⟩ := mem_schedulings_iff.mp hs
    exact ⟨giver, s.kind, s.label, s.millis, (h.liveSince_iff hs).mpr hpends⟩

/-- So the identifiers that are live can be listed, and their number is
reported. -/
theorem exists_live : ∃ live : List TimerId, live.Nodup ∧
    (∀ id, id ∈ live ↔ scenario.Live settings (index + 1) id) ∧
    report.pending = live.length := by
  refine ⟨(scenario.upTo settings (index + 1)).stage.clock.queue.map (·.id), ?_,
    fun id => h.live_iff.symm, ?_⟩
  · simpa [VirtualClock.held] using (h.defers (Nat.le_refl _)).tidy.ids
  · rw [List.length_map, h.pending_eq]

/-- What waits is what is live before the step as well. -/
theorem live_before_iff : scenario.Live settings index id ↔
    id ∈ (scenario.upTo settings index).stage.clock.queue.map (·.id) := by
  cases index with
  | zero => exact iff_of_false not_live_zero List.not_mem_nil
  | succ before =>
      obtain ⟨previous, hprevious⟩ := h.earlier (Nat.le_succ before)
      exact hprevious.live_iff

/-- A step that cancels finds a timer that is live, and takes it out. -/
theorem cancelled_of_cancel {step : Step} (hstep : scenario.steps[index]? = some step)
    (hcancel : step.asksToCancel = true) :
    ∃ id found, step.target? (scenario.upTo settings index).stage.labels = some id ∧
      report.cancelled = some found ∧ (found = true ↔ scenario.Live settings index id) ∧
      (scenario.upTo settings index).stage.clock.queue.length =
        report.pending + found.toNat := by
  obtain ⟨_, answer, hat, hanswer, hreport, -⟩ := h.shows
  obtain rfl := Option.some.inj (hstep.symm.trans hat)
  obtain ⟨id, htarget, hcancelled, hclock⟩ := Step.answer_of_cancel hcancel hanswer
  have htidy := (h.defers (Nat.le_succ index)).tidy
  refine ⟨id, ((scenario.upTo settings index).stage.clock.cancel id).1, htarget, ?_, ?_, ?_⟩
  · rw [hreport]
    exact hcancelled
  · rw [VirtualClock.cancel_found_iff, VirtualClock.Stoppable, htidy.idle, h.live_before_iff]
    simp
  · rw [hreport, Step.report, hclock]
    exact htidy.length_cancel id

theorem cancelled_of_not_cancel {step : Step} (hstep : scenario.steps[index]? = some step)
    (hcancel : step.asksToCancel = false) : report.cancelled = none := by
  obtain ⟨_, answer, hat, hanswer, hreport, -⟩ := h.shows
  obtain rfl := Option.some.inj (hstep.symm.trans hat)
  rw [hreport]
  exact Step.answer_of_not_cancel hcancel hanswer

end Stages

end Reports

section Whole

variable {whole : ScenarioReport} (hrun : (scenario.run settings).result = .ok whole)

include hrun

/-- In the reports of a run that has ended well, `pending` counts what is live. -/
theorem pending_of_run (hreport : whole.steps[index]? = some report) :
    ∃ live : List TimerId, live.Nodup ∧
      (∀ id, id ∈ live ↔ scenario.Live settings (index + 1) id) ∧ report.pending = live.length :=
  ((reports_iff_of_run hrun).mpr hreport).exists_live

/-- From one of its reports to the next, a step that cancels takes one from
`pending` if its target was live, and nothing otherwise; and it tells which. -/
theorem cancelled_of_run {step : Step} {previous : StepReport}
    (hstep : scenario.steps[index + 1]? = some step) (hcancel : step.asksToCancel = true)
    (hprevious : whole.steps[index]? = some previous)
    (hreport : whole.steps[index + 1]? = some report) :
    ∃ id found, step.target? (scenario.upTo settings (index + 1)).stage.labels = some id ∧
      report.cancelled = some found ∧
      (found = true ↔ scenario.Live settings (index + 1) id) ∧
      previous.pending = report.pending + found.toNat := by
  have hlater := (reports_iff_of_run hrun).mpr hreport
  have hearlier := (reports_iff_of_run hrun).mpr hprevious
  obtain ⟨id, found, htarget, hcancelled, hfound, hlength⟩ := hlater.cancelled_of_cancel hstep hcancel
  exact ⟨id, found, htarget, hcancelled, hfound, hearlier.pending_eq.trans hlength⟩

end Whole

/-- **What waits is what is live.**  For each step that a run comes to report:

* `pending` is the number of identifiers that are live once the step has been
  taken;
* a step that cancels, by whichever call, has a target, and `cancelled` tells
  whether that was live before the step; if it was, one timer less is pending
  than was reported before, and as many otherwise;
* and of any other step nothing is reported to be cancelled.

Nothing here depends on the interceptor. -/
theorem pending_counts_live (h : scenario.Reports settings index report) :
    (∃ live : List TimerId, live.Nodup ∧
      (∀ id, id ∈ live ↔ scenario.Live settings (index + 1) id) ∧
      report.pending = live.length) ∧
    (∀ step, scenario.steps[index]? = some step → step.asksToCancel = true →
      ∃ id found, step.target? (scenario.upTo settings index).stage.labels = some id ∧
        report.cancelled = some found ∧ (found = true ↔ scenario.Live settings index id) ∧
        ∀ before previous, before + 1 = index → scenario.Reports settings before previous →
          previous.pending = report.pending + found.toNat) ∧
    (∀ step, scenario.steps[index]? = some step → step.asksToCancel = false →
      report.cancelled = none) := by
  refine ⟨h.exists_live, fun step hstep hcancel => ?_, fun step => h.cancelled_of_not_cancel⟩
  obtain ⟨id, found, htarget, hcancelled, hfound, hlength⟩ := h.cancelled_of_cancel hstep hcancel
  refine ⟨id, found, htarget, hcancelled, hfound, ?_⟩
  rintro before previous rfl hprevious
  rw [hprevious.pending_eq, hlength]

/-- One timer fires as soon as it may, one never does, and the third is
cancelled by the call that is meant for the other kind. -/
def lifetimes : Scenario where
  name := "lifetimes"
  description := none
  steps := [.scheduleOnce "now" 0 none, .scheduleOnce "never" 18446744073709551615 none,
    .scheduleRepeating "poll" 10, .advance 25, .cancelId 1, .cancelOnce "poll"]

theorem lifetimes_cancels_poll : ∃ previous report, lifetimes.Reports {} 4 previous ∧
    lifetimes.Reports {} 5 report ∧ report.cancelled = some true ∧
    previous.pending = report.pending + 1 := by
  obtain ⟨previous, hprevious⟩ : ∃ report, lifetimes.Reports {} 4 report :=
    exists_reports (by decide +kernel) (by decide) (by decide +kernel)
  obtain ⟨report, h⟩ : ∃ report, lifetimes.Reports {} 5 report :=
    exists_reports (by decide +kernel) (by decide) (by decide +kernel)
  obtain ⟨-, hcancels, -⟩ := pending_counts_live h
  obtain ⟨id, found, htarget, hcancelled, hfound, hpending⟩ := hcancels (.cancelOnce "poll") rfl rfl
  have hpoll : (Step.cancelOnce "poll").target? (lifetimes.upTo {} 5).stage.labels = some ⟨3⟩ := by
    decide +kernel
  obtain rfl := Option.some.inj (hpoll.symm.trans htarget)
  have hlive : lifetimes.Live {} 5 ⟨3⟩ := by
    refine ⟨2, .repeating, "poll", 10, by decide, rfl, by decide +kernel, ?_, nofun⟩
    intro later step hlt hlater hat htarget
    obtain rfl | rfl : later = 3 ∨ later = 4 := by omega
    all_goals
      cases hat
      cases htarget
  obtain rfl := hfound.mpr hlive
  exact ⟨previous, report, hprevious, h, hcancelled, hpending 4 previous rfl hprevious⟩

end Scenario

end PageTimers
