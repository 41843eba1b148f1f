/-
# A stage agrees with the steps that led to it

`schedulings` reads off the steps which timers are scheduled, and `Kept` says
how the stage of a run agrees with it:

    the clock           the sum of all advances
    labels              those of the scheduling steps
    timers that wait    one for each scheduling that is live, due where the
                        arithmetic of its period puts it (`waitsAt`)

Whether a one-shot timer has fired is read off the journal.  There is one lemma
for each kind of step: those that leave the timers alone, that schedule, that
cancel, and that advance; `Kept.apply` puts them together.
-/
import PageTimers.Proofs.Scenario.Labels

namespace PageTimers

/-! ## Events that are no firings -/

/-- None of these events tells of a callback that was started. -/
def NoFiring (events : List (Event TimerId)) : Prop := ∀ id, hasFired id events = false

theorem NoFiring.append {first second : List (Event TimerId)} (hfirst : NoFiring first)
    (hsecond : NoFiring second) : NoFiring (first ++ second) := by
  intro id
  have hsplit : hasFired id (first ++ second) = (hasFired id first || hasFired id second) :=
    List.any_append
  rw [hsplit, hfirst, hsecond]
  rfl

theorem NoFiring.journaled {events : List (Event TimerId)} (h : NoFiring events) (stage : Stage)
    (id : TimerId) : hasFired id (stage.journaled events).journal = hasFired id stage.journal := by
  have hevents : events.reverse.any (Event.isFiringOf id) = false := by
    rw [List.any_reverse]
    exact h id
  rw [Stage.journaled, hasFired, List.any_append, hevents, Bool.false_or]
  rfl

namespace Page

variable (page : Page TimerId)

theorem noFiring_installInterceptor : NoFiring page.installInterceptor.2 := by
  intro id
  unfold installInterceptor
  split <;> rfl

theorem noFiring_installConfigured (settings : CompletionSettings) :
    NoFiring (page.installConfigured settings).2 := by
  have hmonitor : ∀ probes, NoFiring (page.installMonitor probes).2 := by
    intro probes id
    unfold installMonitor
    split <;> rfl
  have hwarning : NoFiring
      (if settings.includeOutstanding && !page.isIntercepted then [.outstandingProbeSkipped]
        else []) := by
    intro id
    split <;> rfl
  exact hwarning.append (hmonitor _)

theorem noFiring_noteScheduled (kind : TimerKind) (id : TimerId) :
    NoFiring (page.noteScheduled kind id).2 := by
  intro id
  unfold noteScheduled
  split <;> rfl

theorem noFiring_noteCleared (kind : TimerKind) (id : TimerId) (found : Bool) :
    NoFiring (page.noteCleared kind id found).2 := by
  intro id
  unfold noteCleared
  split <;> rfl

end Page

theorem Step.noFiring_reportEvents (report : StepReport) (stage : Stage) :
    NoFiring (reportEvents report stage) := by
  refine NoFiring.append (fun id => ?_) fun id => rfl
  rw [hasFired, List.any_eq_false]
  intro e he
  obtain ⟨asked, -, rfl⟩ := List.mem_map.mp he
  exact Bool.false_ne_true

/-! ## The drain of a step that advances -/

namespace Stage

def drained (settings : Settings) (ms : UInt64) (stage : Stage) :
    VirtualClock.Drained (Option Assignment) (Page TimerId) :=
  stage.clock.drain settings.virtualClock.stepLimit.toNat assign (.advance (.ofMillis ms.toNat))
    stage.page stage.journal

def after (drained : VirtualClock.Drained (Option Assignment) (Page TimerId)) (stage : Stage) :
    Stage :=
  { stage with clock := drained.clock, page := drained.world, journal := drained.journal }

@[simp] theorem after_clock (drained : VirtualClock.Drained (Option Assignment) (Page TimerId))
    (stage : Stage) : (stage.after drained).clock = drained.clock := rfl

end Stage

theorem Step.apply_advance (settings : Settings) (ms : UInt64) (stage : Stage) :
    (advance ms).apply settings stage = ⟨stage.after (stage.drained settings ms),
      ((stage.drained settings ms).result.mapError .timer).map fun ran =>
        { fired := some ran }⟩ := by
  -- Where the drain is in sight, the kernel runs it when it takes the match apart.
  obtain ⟨drain, hdrain⟩ : ∃ drain, drain = @VirtualClock.drain (Option Assignment) (Page TimerId) :=
    ⟨_, rfl⟩
  rw [Step.apply.eq_def, Stage.drained, ← hdrain]
  dsimp only
  split
  · next e he =>
    rw [he]
    rfl
  · next ran hran =>
    rw [hran]
    rfl

/-! ## The timers that wait -/

/-- The timers that wait to fire, by the steps and by the journal. -/
def live (journal : List (Event TimerId)) (steps : List Step) : List Scheduling :=
  (schedulings 0 0 steps).filter (·.isLive journal)

section Live

variable {journal journal' : List (Event TimerId)} {step : Step} {steps : List Step} {s : Scheduling}

theorem isLive_congr (h : ∀ id, hasFired id journal' = hasFired id journal) :
    Scheduling.isLive journal' = Scheduling.isLive journal := by
  funext s
  rw [Scheduling.isLive, Scheduling.isLive, h]

theorem isLive_onward :
    (s.onward [step]).isLive journal = (s.isLive journal && !step.cancels s.id s.label) := by
  have hcancelled : (s.onward [step]).isCancelled =
      (s.isCancelled || step.cancels s.id s.label) := by
    simp [Scheduling.isCancelled, Scheduling.onward]
  rw [Scheduling.isLive, hcancelled, Bool.not_or, Bool.and_right_comm]
  rfl

/-- What waits after one step more. -/
theorem waits_append (now : Nat) :
    (live journal (steps ++ [step])).map (·.waitsAt now) =
      ((live journal steps).filter fun s => !step.cancels s.id s.label).map (·.waitsAt now) ++
        ((schedulings (elapsed steps) (schedulings 0 0 steps).length [step]).filter
          (·.isLive journal)).map (·.waitsAt now) := by
  have hfilter : ∀ s : Scheduling, (s.onward [step]).isLive journal =
      (s.isLive journal && !step.cancels s.id s.label) := fun _ => isLive_onward
  rw [live, schedulings_append, List.filter_append, List.map_append, List.filter_map, List.map_map,
    Nat.zero_add, Nat.zero_add, live, List.filter_filter]
  congr 2
  refine List.filter_congr fun s _ => ?_
  rw [Function.comp_apply, hfilter, Bool.and_comm]

end Live

/-- A stage agrees with the steps that have led to it. -/
structure Kept (steps : List Step) (stage : Stage) : Prop where
  tidy : VirtualClock.Tidy ⟨stage.clock, []⟩
  now : stage.clock.now = elapsed steps
  lastId : stage.clock.lastId = (schedulings 0 0 steps).length
  labels : ∀ label id, stage.labels.get? label = some id ↔
    ∃ s ∈ schedulings 0 0 steps, s.label = label ∧ id = ⟨s.id⟩
  waiting : stage.clock.waiting.Perm
    ((live stage.journal steps).map (·.waitsAt stage.clock.now))
  /-- Only what was scheduled has fired. -/
  fired : ∀ id, hasFired id stage.journal = true → id.value ≤ stage.clock.lastId

namespace Kept

variable {steps : List Step} {step : Step} {stage stage' : Stage}

theorem fresh : Kept [] Stage.fresh where
  tidy := VirtualClock.tidy_fresh
  now := rfl
  lastId := rfl
  labels label id := by
    constructor
    · intro h
      cases h
    · rintro ⟨s, hs, -⟩
      exact absurd hs List.not_mem_nil
  waiting := .refl _
  fired id hid := by cases hid

theorem named (h : Kept steps stage) : Named steps stage := ⟨h.lastId, h.labels⟩

/-- The page and what the journal tells of it do not matter. -/
theorem congr (h : Kept steps stage) (hclock : stage'.clock = stage.clock)
    (hlabels : stage'.labels = stage.labels)
    (hfired : ∀ id, hasFired id stage'.journal = hasFired id stage.journal) : Kept steps stage' where
  tidy := hclock ▸ h.tidy
  now := hclock ▸ h.now
  lastId := hclock ▸ h.lastId
  labels := hlabels ▸ h.labels
  waiting := by
    rw [hclock, live, isLive_congr hfired]
    exact h.waiting
  fired id hid := by
    rw [hfired] at hid
    rw [hclock]
    exact h.fired id hid

section Quiet

variable (hstep : step.schedules? = none)

include hstep

theorem waits_append_of_none (journal : List (Event TimerId)) (now : Nat) :
    (live journal (steps ++ [step])).map (·.waitsAt now) =
      ((live journal steps).filter fun s => !step.cancels s.id s.label).map (·.waitsAt now) := by
  rw [waits_append, schedulings_cons_none _ _ _ hstep]
  exact List.append_nil _

/-- Where a step schedules nothing, numbers and labels stay. -/
theorem of_unscheduled (h : Kept steps stage) (htidy : VirtualClock.Tidy ⟨stage'.clock, []⟩)
    (hnow : stage'.clock.now = stage.clock.now + step.passes)
    (hlastId : stage'.clock.lastId = stage.clock.lastId) (hlabels : stage'.labels = stage.labels)
    (hwaiting : stage'.clock.waiting.Perm
      (((live stage'.journal steps).filter fun s => !step.cancels s.id s.label).map
        (·.waitsAt stage'.clock.now)))
    (hfired : ∀ id, hasFired id stage'.journal = true → id.value ≤ stage.clock.lastId) :
    Kept (steps ++ [step]) stage' where
  tidy := htidy
  now := by
    rw [hnow, h.now, elapsed_append, elapsed_cons]
    rfl
  lastId := (h.named.of_unscheduled hstep hlastId hlabels).lastId
  labels := (h.named.of_unscheduled hstep hlastId hlabels).labels
  waiting := by
    rw [waits_append_of_none hstep]
    exact hwaiting
  fired id hid := by
    rw [hlastId]
    exact hfired id hid

/-- A step that has nothing to do with timers. -/
theorem idle (h : Kept steps stage) (hpasses : step.passes = 0)
    (hcancels : ∀ id label, step.cancels id label = false) : Kept (steps ++ [step]) stage := by
  refine h.of_unscheduled hstep h.tidy (by rw [hpasses]; rfl) rfl rfl ?_ h.fired
  have hall : (live stage.journal steps).filter (fun s => !step.cancels s.id s.label) =
      live stage.journal steps :=
    List.filter_eq_self.mpr fun s _ => by rw [hcancels]; rfl
  rw [hall]
  exact h.waiting

/-- A step that cancels. -/
theorem cancel (h : Kept steps stage) (hpasses : step.passes = 0) {id : TimerId}
    (hcancels : ∀ s ∈ schedulings 0 0 steps, step.cancels s.id s.label = decide (⟨s.id⟩ = id)) :
    Kept (steps ++ [step]) { stage with clock := (stage.clock.cancel id).2 } := by
  have hcancel : VirtualClock.Beat False ⟨stage.clock, []⟩ (.cleared id (stage.clock.cancel id).1)
      ⟨(stage.clock.cancel id).2, []⟩ := .cancel id
  refine h.of_unscheduled hstep (h.tidy.beat hcancel) (by rw [hpasses]; rfl) rfl rfl ?_ h.fired
  have hwaiting : (stage.clock.cancel id).2.waiting = stage.clock.waiting.filter (·.id != id) := by
    rw [VirtualClock.waiting, VirtualClock.waiting, List.filter_map]
    rfl
  have hlive : (live stage.journal steps).filter (fun s => !step.cancels s.id s.label) =
      (live stage.journal steps).filter fun s => (s.waitsAt stage.clock.now).id != id := by
    refine List.filter_congr fun s hs => ?_
    rw [hcancels s (List.mem_filter.mp hs).1, Scheduling.waitsAt_id, bne]
    rfl
  rw [hwaiting, hlive]
  refine (h.waiting.filter _).trans ?_
  rw [List.filter_map]
  exact .refl _

end Quiet

/-- A timer that is scheduled waits where its scheduling puts it. -/
theorem toPending_scheduledTimer {α : Type} (clock : VirtualClock α) (kind : TimerKind) (callback : α)
    {millis : Nat} (hmillis : millis < word64) {label : String} {since : List Step} :
    (clock.scheduledTimer kind callback (.ofMillis millis)).toPending =
      Scheduling.waitsAt clock.now ⟨clock.lastId + 1, label, kind, clock.now, millis, since⟩ := by
  have hspan := Duration.millis_ofMillis hmillis
  cases kind with
  | once =>
      simp only [QueuedTimer.toPending, QueuedTimer.kind, VirtualClock.scheduledTimer,
        VirtualClock.dueFor, VirtualClock.periodOf, Option.getD_none, hspan, Scheduling.waitsAt]
  | repeating =>
      simp only [QueuedTimer.toPending, QueuedTimer.kind, VirtualClock.scheduledTimer,
        VirtualClock.dueFor, VirtualClock.periodOf, Option.getD_some, hspan, Scheduling.waitsAt,
        Scheduling.period, Nat.sub_self, Nat.zero_div, Nat.zero_add, Nat.one_mul]

section Scheduled

variable (h : Kept steps stage) {kind : TimerKind} {label : String} {millis : Nat}
  (hstep : step.schedules? = some (kind, label, millis))

include h hstep

/-- The new timer waits, and the others wait on. -/
theorem waiting_schedule (hmillis : millis < word64)
    (hcancels : ∀ id label, step.cancels id label = false) (sets : Option Assignment) :
    (stage.clock.schedule kind sets (.ofMillis millis)).2.waiting.Perm
      ((live stage.journal (steps ++ [step])).map (·.waitsAt stage.clock.now)) := by
  have hlive : ∀ s ∈ live stage.journal steps, (!step.cancels s.id s.label) = true :=
    fun s _ => by rw [hcancels]; rfl
  have hnew : Scheduling.isLive stage.journal
      ⟨stage.clock.lastId + 1, label, kind, stage.clock.now, millis, []⟩ = true := by
    have hunfired : hasFired ⟨stage.clock.lastId + 1⟩ stage.journal = false := by
      rw [← Bool.not_eq_true]
      exact fun hid => Nat.not_succ_le_self _ (h.fired _ hid)
    simp [Scheduling.isLive, Scheduling.isCancelled, hunfired]
  rw [waits_append, List.filter_eq_self.mpr hlive, schedulings_cons_some _ _ _ hstep, ← h.lastId,
    ← h.now, schedulings, List.filter_cons_of_pos hnew, List.map_cons,
    ← toPending_scheduledTimer stage.clock kind sets hmillis]
  refine .trans ?_ List.perm_append_comm
  exact h.waiting.cons _

/-- A step that schedules. -/
theorem schedule (hmillis : millis < word64)
    (hnodup : ((schedulings 0 0 (steps ++ [step])).map (·.label)).Nodup)
    (hcancels : ∀ id label, step.cancels id label = false) (sets : Option Assignment)
    (hclock : stage'.clock = (stage.clock.schedule kind sets (.ofMillis millis)).2)
    (hlabels : stage'.labels = stage.labels.insert label ⟨stage.clock.lastId + 1⟩)
    (hfired : ∀ id, hasFired id stage'.journal = hasFired id stage.journal) :
    Kept (steps ++ [step]) stage' where
  tidy := by
    have hschedule : VirtualClock.Beat False ⟨stage.clock, []⟩
        (.scheduled ⟨stage.clock.lastId + 1⟩)
        ⟨(stage.clock.schedule kind sets (.ofMillis millis)).2, []⟩ :=
      .schedule kind sets (.ofMillis millis)
    rw [hclock]
    exact h.tidy.beat hschedule
  now := by
    rw [hclock, VirtualClock.schedule_now, h.now, elapsed_append, elapsed_cons,
      Step.passes_of_schedules hstep]
    rfl
  lastId := (h.named.schedule hstep hnodup (by rw [hclock]; rfl) hlabels).lastId
  labels := (h.named.schedule hstep hnodup (by rw [hclock]; rfl) hlabels).labels
  waiting := by
    rw [live, isLive_congr hfired, hclock]
    exact h.waiting_schedule hstep hmillis hcancels sets
  fired id hid := by
    rw [hfired] at hid
    rw [hclock, VirtualClock.schedule_lastId]
    exact Nat.le_succ_of_le (h.fired id hid)

end Scheduled

/-- A timer has fired once its time has come, if it waited. -/
theorem hasFired_passed (h : Kept steps stage) {target : Nat}
    {clock' : VirtualClock (Option Assignment)} {journal' : List (Event TimerId)}
    (hpassed : VirtualClock.Passed target stage.clock stage.journal clock' journal')
    {s : Scheduling} (hlive : s ∈ live stage.journal steps) :
    hasFired ⟨s.id⟩ journal' = true ↔
      hasFired ⟨s.id⟩ stage.journal = true ∨ (s.waitsAt stage.clock.now).dueAt ≤ target := by
  rw [hpassed.fired]
  refine or_congr_right ⟨?_, fun hdue => ?_⟩
  · rintro ⟨t, ht, hid, hdue⟩
    obtain ⟨r, hr, rfl⟩ := List.mem_map.mp (h.waiting.subset ht)
    rw [Scheduling.waitsAt_id] at hid
    obtain rfl : r = s := List.inj_on_of_nodup_map (ids_nodup steps) (List.mem_filter.mp hr).1
      (List.mem_filter.mp hlive).1 (congrArg TimerId.value hid)
    exact hdue
  · exact ⟨s.waitsAt stage.clock.now, h.waiting.symm.subset (List.mem_map_of_mem hlive),
      Scheduling.waitsAt_id, hdue⟩

/-- What is live then: all that was, but for the one-shot timers whose time has
come. -/
theorem isLive_passed (h : Kept steps stage) {target : Nat} {clock' : VirtualClock (Option Assignment)}
    {journal' : List (Event TimerId)} (htarget : target < Duration.lastInstant)
    (hpassed : VirtualClock.Passed target stage.clock stage.journal clock' journal')
    {s : Scheduling} (hs : s ∈ schedulings 0 0 steps) :
    s.isLive journal' =
      (s.isLive stage.journal && !decide (s.kind = .once ∧ s.time + s.millis ≤ target)) := by
  cases hlive : s.isLive stage.journal with
  | false =>
      rw [Bool.false_and]
      simp only [Scheduling.isLive, Bool.and_eq_false_iff, Bool.or_eq_false_iff] at hlive ⊢
      refine hlive.imp_right fun ⟨hkind, hfired⟩ => ⟨hkind, ?_⟩
      rw [Bool.not_eq_false'] at hfired ⊢
      exact (hpassed.fired _).mpr (Or.inl hfired)
  | true =>
      have hmem : s ∈ live stage.journal steps := List.mem_filter.mpr ⟨hs, hlive⟩
      have hfired := h.hasFired_passed hpassed hmem
      rw [Scheduling.isLive, Bool.and_eq_true] at hlive
      rw [Scheduling.isLive, hlive.1, Bool.true_and, Bool.true_and]
      cases hkind : s.kind with
      | repeating => simp
      | once =>
          have hbefore : hasFired ⟨s.id⟩ stage.journal = false := by
            simpa [hkind] using hlive.2
          have hdue : (s.waitsAt stage.clock.now).dueAt = saturatingAdd s.time s.millis := by
            rw [Scheduling.waitsAt, hkind]
          rw [hbefore, hdue, PendingTimer.saturatingAdd_le_iff htarget] at hfired
          have hiff : hasFired ⟨s.id⟩ journal' = decide (s.time + s.millis ≤ target) := by
            rw [Bool.eq_iff_iff, hfired]
            simp
          rw [hiff]
          simp

/-- A step that advances. -/
theorem advance (h : Kept steps stage) {ms : UInt64}
    {drained : VirtualClock.Drained (Option Assignment) (Page TimerId)}
    (htarget : stage.clock.now + ms.toNat < Duration.lastInstant)
    (hpassed : VirtualClock.Passed (stage.clock.now + ms.toNat) stage.clock stage.journal
      drained.clock drained.journal) : Kept (steps ++ [.advance ms]) (stage.after drained) := by
  have hlater : ∀ s ∈ schedulings 0 0 steps, s.time ≤ stage.clock.now := by
    intro s hs
    have hle := time_le_of_mem hs
    rwa [Nat.zero_add, ← h.now] at hle
  refine h.of_unscheduled rfl hpassed.tidy hpassed.now hpassed.lastId rfl ?_ ?_
  · have hcancels : (live drained.journal steps).filter
        (fun s => !(Step.advance ms).cancels s.id s.label) = live drained.journal steps :=
      List.filter_eq_self.mpr fun _ _ => rfl
    have hlive : live drained.journal steps = (live stage.journal steps).filter fun s =>
        !decide (s.kind = .once ∧ s.time + s.millis ≤ stage.clock.now + ms.toNat) := by
      rw [live, live, List.filter_filter]
      refine List.filter_congr fun s hs => ?_
      rw [h.isLive_passed htarget hpassed hs, Bool.and_comm]
    have hjournal : (stage.after drained).journal = drained.journal := rfl
    have hnow : (stage.after drained).clock.now = stage.clock.now + ms.toNat := hpassed.now
    rw [hjournal, hnow, hcancels, hlive, ← List.filterMap_eq_map, List.filterMap_filter]
    refine hpassed.waiting.trans ((h.waiting.filterMap _).trans ?_)
    rw [List.filterMap_map]
    refine .of_eq (List.filterMap_congr fun s hs => ?_)
    rw [Function.comp_apply, Scheduling.passed_waitsAt (hlater s (List.mem_filter.mp hs).1)
      (Nat.le_add_right _ _) htarget]
    by_cases hgone : s.kind = .once ∧ s.time + s.millis ≤ stage.clock.now + ms.toNat
    · rw [if_pos hgone, decide_eq_true hgone]
      rfl
    · rw [if_neg hgone, decide_eq_false hgone]
      rfl
  · intro id hid
    rcases (hpassed.fired id).mp hid with hfired | ⟨t, ht, rfl, -⟩
    · exact h.fired id hfired
    · obtain ⟨timer, htimer, rfl⟩ := List.mem_map.mp ht
      exact (h.tidy.issued timer (VirtualClock.mem_held.mpr (Or.inl htimer))).2

theorem journaled (h : Kept steps stage) {events : List (Event TimerId)} (hevents : NoFiring events) :
    Kept steps (stage.journaled events) :=
  h.congr rfl rfl fun id => hevents.journaled stage id

theorem turned (h : Kept steps stage) {change : Page TimerId × List (Event TimerId)}
    (hevents : NoFiring change.2) : Kept steps (stage.turnPage change) :=
  h.congr rfl rfl fun id => hevents.journaled { stage with page := change.1 } id

theorem periodic (h : Kept steps stage) : stage.clock.Periodic := by
  intro t ht period hperiod
  obtain ⟨s, -, rfl⟩ := List.mem_map.mp (h.waiting.subset ht)
  cases hkind : s.kind with
  | once =>
      rw [Scheduling.waitsAt, hkind] at hperiod
      cases hperiod
  | repeating =>
      rw [Scheduling.waitsAt, hkind] at hperiod
      cases hperiod
      exact s.period_pos

section Advance

variable (h : Kept steps stage) (settings : Settings) {ms : UInt64}
  (htarget : stage.clock.now + ms.toNat < Duration.lastInstant)

include h htarget

/-- An advance runs as many callbacks as the queue counts, unless they are more
than it may run. -/
theorem drained_spec :
    let limit := VirtualClock.clampLimit settings.virtualClock.stepLimit.toNat
    let count := stage.clock.firingsBy (stage.clock.now + ms.toNat)
    (count ≤ limit → (stage.drained settings ms).result = .ok count ∧
      VirtualClock.Passed (stage.clock.now + ms.toNat) stage.clock stage.journal
        (stage.drained settings ms).clock (stage.drained settings ms).journal) ∧
    (limit < count → (stage.drained settings ms).result = .error (.stepLimitExceeded limit)) := by
  have hword : stage.clock.now + ms.toNat < word64 := Nat.lt_of_lt_of_le htarget (Nat.sub_le _ _)
  have hturns := VirtualClock.turns_passed Stage.assign
    (VirtualClock.clampLimit settings.virtualClock.stepLimit.toNat) 0 stage.page stage.journal
    ms.toNat htarget h.tidy h.periodic (Nat.le_add_right _ _)
  rw [Nat.zero_add, Nat.zero_add] at hturns
  rw [Stage.drained, VirtualClock.drain, VirtualClock.Goal.of_millis hword]
  exact hturns

theorem advanced {answer : StepAnswer}
    (hresult : ((Step.advance ms).apply settings stage).result = .ok answer) :
    Kept (steps ++ [.advance ms]) ((Step.advance ms).apply settings stage).stage := by
  obtain ⟨hwithin, hpast⟩ := h.drained_spec settings htarget
  rw [Step.apply_advance] at hresult ⊢
  rcases Nat.lt_or_ge (VirtualClock.clampLimit settings.virtualClock.stepLimit.toNat)
    (stage.clock.firingsBy (stage.clock.now + ms.toNat)) with hlimit | hcount
  · rw [hpast hlimit] at hresult
    cases hresult
  · exact h.advance htarget (hwithin hcount).2

end Advance

/-- A step that cancels, by whichever name it knows the timer. -/
theorem cancelAs (h : Kept steps stage) (hstep : step.schedules? = none) (hpasses : step.passes = 0)
    (kind : TimerKind) {id : TimerId}
    (hcancels : ∀ s ∈ schedulings 0 0 steps, step.cancels s.id s.label = decide (⟨s.id⟩ = id)) :
    Kept (steps ++ [step]) (Step.cancelAs kind (.ok id) stage).stage :=
  (h.cancel hstep hpasses hcancels).turned (stage.page.noFiring_noteCleared kind id _)

theorem cancelLabelled (h : Kept steps stage)
    (hnodup : ((schedulings 0 0 steps).map (·.label)).Nodup) (hstep : step.schedules? = none)
    (hpasses : step.passes = 0) (kind : TimerKind) {label : String}
    (hcancels : ∀ id other, step.cancels id other = (label == other)) {answer : StepAnswer}
    (hresult : (Step.cancelAs kind (stage.labelled label) stage).result = .ok answer) :
    Kept (steps ++ [step]) (Step.cancelAs kind (stage.labelled label) stage).stage := by
  rw [Stage.labelled] at hresult ⊢
  cases hid : stage.labels.get? label with
  | none =>
      rw [hid] at hresult
      cases hresult
  | some id =>
      refine h.cancelAs hstep hpasses kind fun s hs => ?_
      rw [hcancels]
      exact h.named.cancels_label hnodup hid s hs

/-- A stage goes on to agree with the steps for as long as they succeed, and
time does not end. -/
theorem apply (h : Kept steps stage) (settings : Settings) {answer : StepAnswer}
    (hnodup : ((schedulings 0 0 (steps ++ [step])).map (·.label)).Nodup)
    (htarget : elapsed (steps ++ [step]) < Duration.lastInstant)
    (hresult : (step.apply settings stage).result = .ok answer) :
    Kept (steps ++ [step]) (step.apply settings stage).stage := by
  have hnodup' : ((schedulings 0 0 steps).map (·.label)).Nodup := by
    rw [labels_schedulings, List.filterMap_append, ← labels_schedulings 0 0 steps] at hnodup
    exact hnodup.sublist (List.sublist_append_left _ _)
  cases step with
  | installInterceptor =>
      exact (h.idle rfl rfl fun _ _ => rfl).turned stage.page.noFiring_installInterceptor
  | installMonitor =>
      exact (h.idle rfl rfl fun _ _ => rfl).turned (stage.page.noFiring_installConfigured _)
  | setGlobal name value => exact (h.idle rfl rfl fun _ _ => rfl).congr rfl rfl fun _ => rfl
  | scheduleOnce label delay sets =>
      exact h.schedule rfl delay.toNat_lt hnodup (fun _ _ => rfl) sets rfl rfl fun id =>
        (stage.page.noFiring_noteScheduled .once _).journaled { stage with page := _ } id
  | scheduleRepeating label period =>
      exact h.schedule rfl period.toNat_lt hnodup (fun _ _ => rfl) none rfl rfl fun id =>
        (stage.page.noFiring_noteScheduled .repeating _).journaled { stage with page := _ } id
  | cancelOnce label => exact h.cancelLabelled hnodup' rfl rfl .once (fun _ _ => rfl) hresult
  | cancelRepeating label =>
      exact h.cancelLabelled hnodup' rfl rfl .repeating (fun _ _ => rfl) hresult
  | cancelId id =>
      refine h.cancelAs rfl rfl .once fun s _ => ?_
      rw [Step.cancels, Bool.eq_iff_iff, beq_iff_eq, decide_eq_true_iff, TimerId.mk.injEq]
      exact eq_comm
  | advance ms =>
      have hpasses : elapsed [Step.advance ms] = ms.toNat := Nat.add_zero _
      rw [elapsed_append, ← h.now, hpasses] at htarget
      exact h.advanced settings htarget hresult

end Kept

end PageTimers
