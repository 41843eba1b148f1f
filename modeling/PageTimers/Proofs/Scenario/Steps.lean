/-
# All that a step can do

A step that succeeds does one of six things: it installs one of the two
instruments, it schedules, it cancels, it sets a global, or it lets time pass
(`Applied`).  The two kinds of timer and the three ways to name the timer to be
cancelled make no difference to what follows.

What an advance does to the page goes through the callbacks of scenarios, and
those set globals: a drain leaves the two instruments alone, and it hands out no
number.
-/
import PageTimers.Proofs.Scenario.Reports

namespace PageTimers

/-! ## What a drain leaves alone -/

namespace VirtualClock

section Turns

variable {α ω : Type} (call : α → ω → ω) (goal : Goal)

/-- What every callback keeps of the world a drain keeps. -/
theorem turns_world {P : ω → Prop} (hcall : ∀ callback world, P world → P (call callback world))
    (left ran : Nat) (clock : VirtualClock α) {world : ω} (journal : List (Event TimerId))
    (h : P world) : P (turns call goal left ran clock world journal).world := by
  induction left, ran, clock, world, journal using turns.induct call goal with
  | case1 left ran clock world journal hnext =>
      rw [turns_none goal call left ran world journal hnext]
      exact h
  | case2 ran clock world journal timer hnext =>
      rw [turns_limited goal call ran world journal hnext]
      exact h
  | case3 ran clock world journal timer hnext left ih =>
      rw [turns_turn goal call left ran world journal hnext]
      exact ih (hcall _ _ h)

theorem turns_lastId (left ran : Nat) (clock : VirtualClock α) (world : ω)
    (journal : List (Event TimerId)) :
    (turns call goal left ran clock world journal).clock.lastId = clock.lastId := by
  induction left, ran, clock, world, journal using turns.induct call goal with
  | case1 left ran clock world journal hnext =>
      rw [turns_none goal call left ran world journal hnext, reach_lastId]
  | case2 ran clock world journal timer hnext =>
      rw [turns_limited goal call ran world journal hnext]
  | case3 ran clock world journal timer hnext left ih =>
      rw [turns_turn goal call left ran world journal hnext]
      refine Eq.trans ih ?_
      rw [finish_lastId, start_lastId]

end Turns

end VirtualClock

namespace Stage

@[simp] theorem after_labels (drained : VirtualClock.Drained (Option Assignment) (Page TimerId))
    (stage : Stage) : (stage.after drained).labels = stage.labels := rfl

@[simp] theorem after_page (drained : VirtualClock.Drained (Option Assignment) (Page TimerId))
    (stage : Stage) : (stage.after drained).page = drained.world := rfl

variable (settings : Settings) (ms : UInt64) (stage : Stage)

theorem drained_lastId : (stage.drained settings ms).clock.lastId = stage.clock.lastId := by
  rw [drained, VirtualClock.drain]
  split
  · rfl
  · exact VirtualClock.turns_lastId _ _ _ _ _ _ _

/-- The callbacks of a scenario change nothing of the page but its globals. -/
theorem drained_page : ∃ globals,
    (stage.drained settings ms).world = { stage.page with globals := globals } := by
  have hassign : ∀ (assignment : Option Assignment) (page : Page TimerId),
      (∃ globals, page = { stage.page with globals := globals }) →
        ∃ globals, assign assignment page = { stage.page with globals := globals } := by
    rintro assignment page ⟨globals, rfl⟩
    cases assignment with
    | none => exact ⟨globals, rfl⟩
    | some a => exact ⟨globals.set a.name a.value, rfl⟩
  rw [drained, VirtualClock.drain]
  split
  · exact ⟨stage.page.globals, rfl⟩
  · exact VirtualClock.turns_world
      (P := fun page => ∃ globals, page = { stage.page with globals := globals })
      assign _ hassign _ _ _ _ ⟨stage.page.globals, rfl⟩

end Stage

/-! ## What is done to the page -/

namespace Page

variable (page : Page TimerId) (kind : TimerKind) (id : TimerId) (found : Bool)

theorem installInterceptor_page : page.installInterceptor.1 =
    { page with outstanding := some (page.outstanding.getD .empty) } := by
  obtain ⟨globals, flags, outstanding, monitor⟩ := page
  cases outstanding <;> rfl

theorem installConfigured_page (settings : CompletionSettings) :
    (page.installConfigured settings).1 =
      { page with monitor := some (page.monitor.getD (page.configuredProbes settings)) } := by
  obtain ⟨globals, flags, outstanding, monitor⟩ := page
  cases monitor <;> rfl

theorem noteScheduled_page : (page.noteScheduled kind id).1 =
    { page with outstanding := page.outstanding.map (·.insert id) } := by
  obtain ⟨globals, flags, outstanding, monitor⟩ := page
  cases outstanding <;> rfl

theorem noteCleared_page : (page.noteCleared kind id found).1 =
    { page with outstanding := page.outstanding.map (·.erase id) } := by
  obtain ⟨globals, flags, outstanding, monitor⟩ := page
  cases outstanding <;> rfl

end Page

namespace Stage

variable (stage : Stage) (kind : TimerKind) (id : TimerId)

theorem turnPage_page (change : Page TimerId × List (Event TimerId)) :
    (stage.turnPage change).page = change.1 := rfl

theorem schedule_page (label : String) (delay : UInt64) (sets : Option Assignment) :
    (stage.schedule kind label delay sets).page =
      (stage.page.noteScheduled kind ⟨stage.clock.lastId + 1⟩).1 := rfl

theorem cancel_page : (stage.cancel kind id).2.page =
    (stage.page.noteCleared kind id (stage.clock.cancel id).1).1 := rfl

end Stage

/-! ## One step -/

namespace Step

/-- What the callback of a timer that a step schedules is to set. -/
def sets? : Step → Option Assignment
  | scheduleOnce _ _ sets => sets
  | _ => none

/-- The timer that a step asks to cancel, by the labels as they stand. -/
def target? (labels : Fields TimerId) : Step → Option TimerId
  | cancelOnce label => labels.get? label
  | cancelRepeating label => labels.get? label
  | cancelId id => some ⟨id.toNat⟩
  | _ => none

end Step

/-- The stage to which a step leads where it succeeds. -/
inductive Applied (settings : Settings) (stage : Stage) : Step → Stage → Prop
  | install : Applied settings stage .installInterceptor
      (stage.turnPage stage.page.installInterceptor)
  | monitor : Applied settings stage .installMonitor
      (stage.turnPage (stage.page.installConfigured settings.completion))
  | schedule {step : Step} (kind : TimerKind) (label : String) (delay : UInt64)
      (hschedules : step.schedules? = some (kind, label, delay.toNat))
      (honce : kind = .repeating → step.sets? = none) :
      Applied settings stage step (stage.schedule kind label delay step.sets?)
  | cancel {step : Step} (kind : TimerKind) (id : TimerId)
      (htarget : step.target? stage.labels = some id) :
      Applied settings stage step (stage.cancel kind id).2
  | set (name : String) (value : Json) : Applied settings stage (.setGlobal name value)
      { stage with page.globals := stage.page.globals.set name value }
  | advance (ms : UInt64) (count : Nat)
      (hresult : (stage.drained settings ms).result = .ok count) :
      Applied settings stage (.advance ms) (stage.after (stage.drained settings ms))

namespace Step

variable {settings : Settings} {step : Step} {stage : Stage} {answer : StepAnswer}

/-- Nothing but a cancelling step asks to cancel. -/
theorem of_target? {labels : Fields TimerId} {id : TimerId} (h : step.target? labels = some id) :
    step.schedules? = none ∧ step.passes = 0 ∧ step.sets? = none := by
  cases step <;> first | exact ⟨rfl, rfl, rfl⟩ | cases h

theorem cancelAs_labelled (kind : TimerKind) {label : String}
    (h : (cancelAs kind (stage.labelled label) stage).result = .ok answer) :
    ∃ id, stage.labels.get? label = some id ∧
      (cancelAs kind (stage.labelled label) stage).stage = (stage.cancel kind id).2 := by
  rw [Stage.labelled] at h ⊢
  cases hid : stage.labels.get? label with
  | none =>
      rw [hid] at h
      cases h
  | some id => exact ⟨id, rfl, rfl⟩

theorem applied (h : (step.apply settings stage).result = .ok answer) :
    Applied settings stage step (step.apply settings stage).stage := by
  cases step with
  | installInterceptor => exact .install
  | installMonitor => exact .monitor
  | scheduleOnce label delay sets => exact .schedule .once label delay rfl nofun
  | scheduleRepeating label period => exact .schedule .repeating label period rfl fun _ => rfl
  | cancelOnce label =>
      obtain ⟨id, hid, hstage⟩ := cancelAs_labelled .once h
      have happly : ((cancelOnce label).apply settings stage).stage = (stage.cancel .once id).2 :=
        hstage
      rw [happly]
      exact .cancel .once id hid
  | cancelRepeating label =>
      obtain ⟨id, hid, hstage⟩ := cancelAs_labelled .repeating h
      have happly : ((cancelRepeating label).apply settings stage).stage =
          (stage.cancel .repeating id).2 := hstage
      rw [happly]
      exact .cancel .repeating id hid
  | cancelId id => exact .cancel .once ⟨id.toNat⟩ rfl
  | setGlobal name value => exact .set name value
  | advance ms =>
      rw [apply_advance] at h ⊢
      cases hresult : (stage.drained settings ms).result with
      | error e =>
          rw [hresult] at h
          cases h
      | ok count => exact .advance ms count hresult

end Step

/-! ## Numbers and labels -/

namespace Named

variable {settings : Settings} {steps : List Step} {step : Step} {stage stage' : Stage}

/-- By whichever name, the step asks to cancel this timer. -/
theorem cancels_iff (h : Named steps stage) (step : Step) {s : Scheduling}
    (hs : s ∈ schedulings 0 0 steps) :
    step.cancels s.id s.label = true ↔ step.target? stage.labels = some ⟨s.id⟩ := by
  have hlabel : ∀ label, (label == s.label) = true ↔ stage.labels.get? label = some ⟨s.id⟩ := by
    intro label
    rw [beq_iff_eq, h.labels]
    constructor
    · rintro rfl
      exact ⟨s, hs, rfl, rfl⟩
    · rintro ⟨r, hr, rfl, hid⟩
      rw [List.inj_on_of_nodup_map (ids_nodup steps) hr hs (congrArg TimerId.value hid).symm]
  cases step with
  | cancelOnce label => exact hlabel label
  | cancelRepeating label => exact hlabel label
  | cancelId other =>
      rw [Step.cancels, beq_iff_eq, Step.target?, Option.some.injEq, TimerId.mk.injEq]
  | _ => exact iff_of_false Bool.false_ne_true (Option.some_ne_none _).symm

/-- A label stands for the timer of the step that gives it. -/
theorem labels_iff (h : Named steps stage) {label : String} {id : TimerId} :
    stage.labels.get? label = some id ↔
      ∃ giver, steps[giver]?.bind Step.gives? = some label ∧ id = ⟨numberAt steps giver⟩ := by
  rw [h.labels]
  constructor
  · rintro ⟨s, hs, rfl, rfl⟩
    obtain ⟨giver, hgiver⟩ := mem_schedulings_iff.mp hs
    exact ⟨giver, (exists_scheduledAt_iff 0 0).mp ⟨s, hgiver, rfl⟩, by rw [hgiver.id, Nat.zero_add]⟩
  · rintro ⟨giver, hgives, rfl⟩
    obtain ⟨s, hs, hlabel⟩ := (exists_scheduledAt_iff 0 0).mpr hgives
    exact ⟨s, mem_schedulings_iff.mpr ⟨giver, hs⟩, hlabel, by rw [hs.id, Nat.zero_add]⟩

/-- Every step keeps numbers and labels, however long the run has been. -/
theorem apply (h : Named steps stage)
    (hnodup : ((schedulings 0 0 (steps ++ [step])).map (·.label)).Nodup)
    (happlied : Applied settings stage step stage') : Named (steps ++ [step]) stage' := by
  cases happlied with
  | install | monitor | set => exact h.of_unscheduled rfl rfl rfl
  | schedule kind label delay hschedules _ => exact h.schedule hschedules hnodup rfl rfl
  | cancel kind id htarget => exact h.of_unscheduled (Step.of_target? htarget).1 rfl rfl
  | advance ms count hresult =>
      refine h.of_unscheduled rfl ?_ (Stage.after_labels _ _)
      rw [Stage.after_clock, Stage.drained_lastId]

end Named

/-- A scenario that makes sense gives no label twice, up to any of its steps. -/
theorem Scenario.nodup_take {scenario : Scenario} (hvalid : scenario.validate = .ok ()) (count : Nat) :
    ((schedulings 0 0 (scenario.steps.take count)).map (·.label)).Nodup :=
  nodup_labels hvalid (List.take_append_drop count scenario.steps).symm

/-- What all that a step can do keeps, a run of a scenario that makes sense
keeps. -/
theorem Scenario.upTo_applied {settings : Settings} {scenario : Scenario} {count : Nat}
    {reports : List StepReport} {I : List Step → Stage → Prop} (hvalid : scenario.validate = .ok ())
    (hstart : I [] (Stage.fresh.journaled [.scenarioStarted scenario.name scenario.steps.length]))
    (hstep : ∀ {steps : List Step} {step : Step} {stage stage' : Stage} (index : Nat)
      (answer : StepAnswer), ((schedulings 0 0 (steps ++ [step])).map (·.label)).Nodup →
      I steps stage → Applied settings stage step stage' →
      I (steps ++ [step]) (reported index step answer stage'))
    (hreached : (scenario.upTo settings count).result = .ok reports) :
    I (scenario.steps.take count) (scenario.upTo settings count).stage := by
  refine upTo_invariant hstart ?_ hreached
  intro index step answer hat h hanswer
  have hnodup := nodup_take hvalid (index + 1)
  rw [List.take_add_one, hat, Option.toList_some] at hnodup
  exact hstep index answer hnodup h (Step.applied hanswer)

theorem Scenario.named_upTo {settings : Settings} {scenario : Scenario} {count : Nat}
    {reports : List StepReport} (hvalid : scenario.validate = .ok ())
    (hreached : (scenario.upTo settings count).result = .ok reports) :
    Named (scenario.steps.take count) (scenario.upTo settings count).stage := by
  refine upTo_applied (I := Named) hvalid ⟨Named.fresh.lastId, Named.fresh.labels⟩ ?_ hreached
  intro steps step stage stage' index answer hnodup h happlied
  exact ⟨(h.apply hnodup happlied).lastId, (h.apply hnodup happlied).labels⟩

end PageTimers
