/-
# What a scenario writes

Globals are written in two ways: by the steps that set them, and by the
callbacks of one-shot timers, which write what their steps have put off until
they fire.  The steps tell when that is.  A one-shot timer that nothing has
cancelled fires in the first advance that brings the clock to its due time, and
the timers of one advance fire

    by due time, and then by number    (`comingDue`)

for the queue gives out places in the order in which timers are scheduled.  So
the steps tell all writes, in order (`writes`), and what a global holds is what
was written last (`lastWrite?`).
-/
import PageTimers.Proofs.Clock.Turnover
import PageTimers.Proofs.Scenario.Steps

namespace PageTimers

/-! ## By the steps -/

namespace Step

def advances : Step → Bool
  | advance _ => true
  | _ => false

/-- What a step puts off until its timer fires, if it schedules one. -/
def defers? (step : Step) : Option (Option Assignment) := step.schedules?.map fun _ => step.sets?

end Step

namespace Scheduling

def dueAt (s : Scheduling) : Nat := saturatingAdd s.time s.millis

/-- An advance since has brought the clock to its due time. -/
def hasCome (s : Scheduling) : Bool :=
  s.since.any Step.advances && s.dueAt ≤ s.time + elapsed s.since

/-- It is to fire once, and has neither been cancelled nor fired. -/
def awaitsOnce (s : Scheduling) : Bool := s.kind == .once && !s.isCancelled && !s.hasCome

end Scheduling

/-- A timer that was scheduled, and what its callback is to set. -/
structure Deferral where
  timer : Scheduling
  sets : Option Assignment

namespace Deferral

/-- Whether it fires before another one that fires in the same advance. -/
def firesBefore (d e : Deferral) : Bool :=
  d.timer.dueAt < e.timer.dueAt || (d.timer.dueAt == e.timer.dueAt && d.timer.id ≤ e.timer.id)

def onward (more : List Step) (d : Deferral) : Deferral := { d with timer := d.timer.onward more }

end Deferral

/-- What all timers that steps schedule are to set. -/
def deferrals (steps : List Step) : List Deferral :=
  ((schedulings 0 0 steps).zip (steps.filterMap Step.defers?)).map fun d => ⟨d.1, d.2⟩

/-- The one-shot timers that fire in an advance by `ms` milliseconds, in the
order in which they fire. -/
def comingDue (before : List Step) (ms : Nat) : List Deferral :=
  ((deferrals before).filter fun d =>
    d.timer.awaitsOnce && d.timer.dueAt ≤ elapsed before + ms).mergeSort Deferral.firesBefore

namespace Step

/-- The one-shot timers that fire in a step. -/
def firesOnce (before : List Step) : Step → List Deferral
  | advance ms => comingDue before ms.toNat
  | _ => []

/-- What a step writes, in order. -/
def writes (before : List Step) : Step → List Assignment
  | advance ms => (comingDue before ms.toNat).filterMap (·.sets)
  | setGlobal name value => [⟨name, value⟩]
  | _ => []

end Step

/-- What steps bring about one after the other, each with those before it in
view. -/
def inTurn {β : Type} (bring : List Step → Step → List β) : (before rest : List Step) → List β
  | _, [] => []
  | before, step :: rest => bring before step ++ inTurn bring (before ++ [step]) rest

/-- The one-shot timers that fire, in order. -/
def onceFirings (steps : List Step) : List Deferral :=
  inTurn (fun before step => step.firesOnce before) [] steps

/-- All that is written to globals, in order. -/
def writes (steps : List Step) : List Assignment :=
  inTurn (fun before step => step.writes before) [] steps

/-- What was last written to a global. -/
def lastWrite? (name : String) (steps : List Step) : Option Json :=
  ((writes steps).reverse.find? (·.name == name)).map (·.value)

theorem Deferral.firesBefore_iff {d e : Deferral} : d.firesBefore e = true ↔
    d.timer.dueAt < e.timer.dueAt ∨ d.timer.dueAt = e.timer.dueAt ∧ d.timer.id ≤ e.timer.id := by
  simp [firesBefore]

theorem sorted_comingDue (before : List Step) (ms : Nat) :
    (comingDue before ms).Pairwise fun d e => d.firesBefore e = true := by
  have htrans : ∀ d e f : Deferral, d.firesBefore e = true → e.firesBefore f = true →
      d.firesBefore f = true := by
    intro d e f hde hef
    rw [Deferral.firesBefore_iff] at *
    omega
  have htotal : ∀ d e : Deferral, (d.firesBefore e || e.firesBefore d) = true := by
    intro d e
    rw [Bool.or_eq_true, Deferral.firesBefore_iff, Deferral.firesBefore_iff]
    omega
  exact List.pairwise_mergeSort htrans htotal _

section Ledger

variable {step : Step} {steps : List Step} {kind : TimerKind} {label : String} {millis : Nat}

theorem inTurn_append {β : Type} (bring : List Step → Step → List β) (before rest : List Step)
    (step : Step) : inTurn bring before (rest ++ [step]) =
      inTurn bring before rest ++ bring (before ++ rest) step := by
  induction rest generalizing before with
  | nil => simp [inTurn]
  | cons first rest ih =>
      rw [List.cons_append, inTurn, ih, inTurn, List.append_assoc, List.append_assoc]
      rfl

theorem writes_append (steps : List Step) (step : Step) :
    writes (steps ++ [step]) = writes steps ++ step.writes steps := inTurn_append _ _ _ _

theorem onceFirings_append (steps : List Step) (step : Step) :
    onceFirings (steps ++ [step]) = onceFirings steps ++ step.firesOnce steps := inTurn_append _ _ _ _

theorem length_defers (now lastId : Nat) (steps : List Step) :
    (schedulings now lastId steps).length = (steps.filterMap Step.defers?).length := by
  rw [length_schedulings, List.length_filterMap_eq_countP]
  refine List.countP_congr fun step _ => ?_
  rw [Step.gives?_eq, Step.defers?, Option.isSome_map, Option.isSome_map]

theorem map_timer_deferrals (steps : List Step) :
    (deferrals steps).map (·.timer) = schedulings 0 0 steps := by
  rw [deferrals, List.map_map]
  exact List.map_fst_zip (Nat.le_of_eq (length_defers 0 0 steps))

theorem deferrals_append (steps : List Step) (step : Step) :
    deferrals (steps ++ [step]) = (deferrals steps).map (·.onward [step]) ++
      ((schedulings (elapsed steps) (schedulings 0 0 steps).length [step]).zip
        ([step].filterMap Step.defers?)).map fun d => ⟨d.1, d.2⟩ := by
  rw [deferrals, schedulings_append, List.filterMap_append, List.zip_append, List.map_append,
    Nat.zero_add, Nat.zero_add, List.zip_map_left, List.map_map, deferrals, List.map_map]
  · rfl
  · rw [List.length_map, length_defers]

theorem deferrals_append_of_none (h : step.schedules? = none) :
    deferrals (steps ++ [step]) = (deferrals steps).map (·.onward [step]) := by
  rw [deferrals_append, schedulings_cons_none _ _ _ h]
  exact List.append_nil _

theorem deferrals_append_of_some (h : step.schedules? = some (kind, label, millis)) :
    deferrals (steps ++ [step]) = (deferrals steps).map (·.onward [step]) ++
      [⟨⟨(schedulings 0 0 steps).length + 1, label, kind, elapsed steps, millis, []⟩, step.sets?⟩] := by
  rw [deferrals_append, schedulings_cons_some _ _ _ h, List.filterMap_cons, Step.defers?, h]
  rfl

/-- All the time that passes, passes before a timer is scheduled or after. -/
theorem time_add_elapsed {s : Scheduling} (hs : s ∈ schedulings 0 0 steps) :
    s.time + elapsed s.since = elapsed steps := by
  obtain ⟨index, hat⟩ := mem_schedulings_iff.mp hs
  rw [hat.time_eq, hat.since, Nat.zero_add, ← elapsed_append, List.take_append_drop]

/-- No time passes after the last advance. -/
theorem exists_last_advance (h : steps.any Step.advances = true) : ∃ place ms,
    steps[place]? = some (.advance ms) ∧ elapsed (steps.take (place + 1)) = elapsed steps := by
  induction steps using List.reverseRecOn with
  | nil => cases h
  | append_singleton steps step ih =>
      cases hadvances : step.advances with
      | true =>
          obtain ⟨ms, rfl⟩ : ∃ ms, step = .advance ms := by
            cases step <;> first | exact ⟨_, rfl⟩ | cases hadvances
          refine ⟨steps.length, ms, List.getElem?_concat_length, ?_⟩
          rw [List.take_of_length_le (by simp)]
      | false =>
          have hpasses : step.passes = 0 := by
            cases step <;> first | rfl | cases hadvances
          rw [List.any_append, List.any_cons, hadvances, List.any_nil, Bool.or_false,
            Bool.or_false] at h
          obtain ⟨place, ms, hat, hall⟩ := ih h
          have hlt : place < steps.length := (List.getElem?_eq_some_iff.mp hat).1
          refine ⟨place, ms, (List.getElem?_append_left hlt).trans hat, ?_⟩
          rw [List.take_append_of_le_length hlt, hall, elapsed_append, elapsed_cons, hpasses]
          rfl

section Await

variable {s : Scheduling}

theorem isCancelled_onward :
    (s.onward [step]).isCancelled = (s.isCancelled || step.cancels s.id s.label) := by
  simp [Scheduling.isCancelled, Scheduling.onward]

theorem hasCome_onward : (s.onward [step]).hasCome =
    ((s.since.any Step.advances || step.advances) &&
      decide (s.dueAt ≤ s.time + elapsed s.since + step.passes)) := by
  have hany : (s.onward [step]).since.any Step.advances =
      (s.since.any Step.advances || step.advances) := by
    simp [Scheduling.onward]
  have helapsed : (s.onward [step]).time + elapsed (s.onward [step]).since =
      s.time + elapsed s.since + step.passes := by
    rw [Scheduling.onward, elapsed_append, elapsed_cons, Nat.add_assoc]
    rfl
  rw [Scheduling.hasCome, hany, helapsed]
  rfl

/-- Its time has come in one of the advances since. -/
theorem hasCome_iff : s.hasCome = true ↔ ∃ place ms, s.since[place]? = some (.advance ms) ∧
    s.dueAt ≤ s.time + elapsed (s.since.take (place + 1)) := by
  rw [Scheduling.hasCome, Bool.and_eq_true, decide_eq_true_eq]
  constructor
  · -- the last of them has brought the clock to where it is
    rintro ⟨hany, hdue⟩
    obtain ⟨place, ms, hat, hall⟩ := exists_last_advance hany
    exact ⟨place, ms, hat, by rw [hall]; exact hdue⟩
  · rintro ⟨place, ms, hat, hdue⟩
    refine ⟨List.any_eq_true.mpr ⟨_, List.mem_of_getElem? hat, rfl⟩, Nat.le_trans hdue ?_⟩
    rw [← List.take_append_drop (place + 1) s.since, elapsed_append, List.take_append_drop]
    omega

/-- A step that lets no time pass stops a timer only by cancelling it. -/
theorem awaitsOnce_onward (h : step.advances = false) :
    (s.onward [step]).awaitsOnce = (s.awaitsOnce && !step.cancels s.id s.label) := by
  have hpasses : step.passes = 0 := by
    cases step <;> first | rfl | cases h
  have hcome : (s.onward [step]).hasCome = s.hasCome := by
    rw [hasCome_onward, h, hpasses, Bool.or_false]
    rfl
  have hkind : (s.onward [step]).kind = s.kind := rfl
  rw [Scheduling.awaitsOnce, hkind, isCancelled_onward, hcome, Scheduling.awaitsOnce]
  cases s.isCancelled <;> cases s.hasCome <;> simp

/-- An advance stops those whose time has come. -/
theorem awaitsOnce_advance (hs : s ∈ schedulings 0 0 steps) (ms : UInt64) :
    (s.onward [.advance ms]).awaitsOnce =
      (s.awaitsOnce && !decide (s.dueAt ≤ elapsed steps + ms.toNat)) := by
  have htime := time_add_elapsed hs
  have hcome : (s.onward [.advance ms]).hasCome = decide (s.dueAt ≤ elapsed steps + ms.toNat) := by
    rw [hasCome_onward, htime, Step.advances, Bool.or_true, Bool.true_and]
    rfl
  have hearlier : s.hasCome = true → s.dueAt ≤ elapsed steps + ms.toNat := by
    intro h
    rw [Scheduling.hasCome, Bool.and_eq_true, decide_eq_true_eq, htime] at h
    exact Nat.le_trans h.2 (Nat.le_add_right _ _)
  have hcancels : (Step.advance ms).cancels s.id s.label = false := rfl
  rw [Scheduling.awaitsOnce, isCancelled_onward, hcome, Scheduling.awaitsOnce, hcancels,
    Bool.or_false]
  cases hbefore : s.hasCome with
  | false => rw [Bool.not_false, Bool.and_true]; rfl
  | true => rw [decide_eq_true (hearlier hbefore), Bool.not_true, Bool.and_false, Bool.and_false]

end Await

end Ledger

/-! ## By the stage -/

def Globals.assign (globals : Globals) (a : Assignment) : Globals := globals.set a.name a.value

/-- A global holds what was written to it last. -/
theorem Globals.get?_foldl_assign (name : String) (assignments : List Assignment) :
    (assignments.foldl assign .empty).get? name =
      (assignments.reverse.find? (·.name == name)).map (·.value) := by
  induction assignments using List.reverseRecOn with
  | nil => rfl
  | append_singleton assignments a ih =>
      have hset : ∀ globals : Globals, (globals.assign a).get? name =
          if a.name = name then some a.value else globals.get? name :=
        fun globals => Fields.get?_insert a.name a.value globals.values name
      rw [List.foldl_append, List.foldl_cons, List.foldl_nil, hset, ih, List.reverse_append,
        List.reverse_singleton, List.singleton_append, List.find?_cons]
      by_cases hname : a.name = name
      · rw [if_pos hname, beq_iff_eq.mpr hname]
        rfl
      · rw [if_neg hname, beq_eq_false_iff_ne.mpr hname]

/-- The callbacks of one-shot timers write, and no others do. -/
theorem Stage.globals_foldl_assign {timers : List (QueuedTimer (Option Assignment))}
    (hsilent : ∀ t ∈ timers, t.period = none ∨ t.callback = none) (page : Page TimerId) :
    (timers.foldl (fun page t => assign t.callback page) page).globals =
      ((timers.filter (·.isOnce)).filterMap (·.callback)).foldl Globals.assign page.globals := by
  induction timers generalizing page with
  | nil => rfl
  | cons t timers ih =>
      obtain ⟨ht, hrest⟩ := List.forall_mem_cons.mp hsilent
      rw [List.foldl_cons, ih hrest]
      cases hcallback : t.callback with
      | none =>
          cases honce : t.isOnce with
          | false => rw [List.filter_cons_of_neg (by rw [honce]; exact Bool.false_ne_true)]; rfl
          | true => rw [List.filter_cons_of_pos honce, List.filterMap_cons, hcallback]; rfl
      | some a =>
          have hwrites : t.callback ≠ none := by
            rw [hcallback]
            exact Option.some_ne_none a
          have honce : t.isOnce = true := by
            rw [QueuedTimer.isOnce, ht.resolve_right hwrites]
            rfl
          rw [List.filter_cons_of_pos honce, List.filterMap_cons, hcallback]
          rfl

/-- What a waiting timer has in common with what the steps tell of it. -/
def QueuedTimer.outline (t : QueuedTimer (Option Assignment)) : TimerId × Nat × Option Assignment :=
  (t.id, t.dueAt, t.callback)

def Deferral.outline (d : Deferral) : TimerId × Nat × Option Assignment :=
  (⟨d.timer.id⟩, d.timer.dueAt, d.sets)

/-- The one-shot timers that wait, by the steps. -/
def awaited (steps : List Step) : List Deferral := (deferrals steps).filter (·.timer.awaitsOnce)

/-- A stage agrees with the steps that have led to it about what is still to be
written, and what has been. -/
structure Defers (steps : List Step) (stage : Stage) : Prop where
  tidy : VirtualClock.Tidy ⟨stage.clock, []⟩
  now : stage.clock.now = elapsed steps
  named : Named steps stage
  /-- The latest timer comes first in the queue. -/
  waiting : stage.clock.onceWaiting.reverse.map QueuedTimer.outline =
    (awaited steps).map Deferral.outline
  placed : stage.clock.onceWaiting.Pairwise fun t u => u.order < t.order
  silent : ∀ t ∈ stage.clock.queue, t.period = none ∨ t.callback = none
  globals : stage.page.globals = (writes steps).foldl Globals.assign .empty
  fired : firedOnce stage.journal = ((onceFirings steps).map fun d => ⟨d.timer.id⟩).reverse

section Awaited

variable {step : Step} {steps : List Step}

theorem mem_schedulings_of_deferral {d : Deferral} (hd : d ∈ deferrals steps) :
    d.timer ∈ schedulings 0 0 steps := by
  rw [← map_timer_deferrals]
  exact List.mem_map_of_mem hd

/-- What is still awaited after one step more, by the step. -/
theorem awaited_onward {p : Deferral → Bool}
    (hp : ∀ d ∈ deferrals steps, (d.timer.onward [step]).awaitsOnce = (d.timer.awaitsOnce && p d)) :
    (((deferrals steps).map (·.onward [step])).filter (·.timer.awaitsOnce)).map Deferral.outline =
      ((awaited steps).filter p).map Deferral.outline := by
  rw [List.filter_map, List.map_map, awaited, List.filter_filter]
  refine congrArg (List.map _) (List.filter_congr fun d hd => ?_)
  rw [Bool.and_comm]
  exact hp d hd

theorem awaited_append_of_none (hschedules : step.schedules? = none) {p : Deferral → Bool}
    (hp : ∀ d ∈ deferrals steps, (d.timer.onward [step]).awaitsOnce = (d.timer.awaitsOnce && p d)) :
    (awaited (steps ++ [step])).map Deferral.outline =
      ((awaited steps).filter p).map Deferral.outline := by
  rw [awaited, deferrals_append_of_none hschedules, awaited_onward hp]

theorem awaited_append_of_some {kind : TimerKind} {label : String} {millis : Nat}
    (hschedules : step.schedules? = some (kind, label, millis)) :
    (awaited (steps ++ [step])).map Deferral.outline = (awaited steps).map Deferral.outline ++
      if kind = .once then
        [(⟨(schedulings 0 0 steps).length + 1⟩, saturatingAdd (elapsed steps) millis, step.sets?)]
      else [] := by
  have hadvances : step.advances = false := by
    cases step <;> first | rfl | cases hschedules
  have hcancels : ∀ id label, step.cancels id label = false := by
    intro id label
    cases step <;> first | rfl | cases hschedules
  have hp : ∀ d ∈ deferrals steps,
      (d.timer.onward [step]).awaitsOnce = (d.timer.awaitsOnce && true) := fun d _ => by
    rw [awaitsOnce_onward hadvances, hcancels]
    rfl
  rw [awaited, deferrals_append_of_some hschedules, List.filter_append, List.map_append,
    awaited_onward hp, List.filter_eq_self.mpr fun _ _ => rfl]
  cases kind <;> rfl

end Awaited

namespace Defers

variable {settings : Settings} {steps : List Step} {step : Step} {stage stage' : Stage}

theorem fresh : Defers [] Stage.fresh where
  tidy := VirtualClock.tidy_fresh
  now := rfl
  named := .fresh
  waiting := rfl
  placed := List.Pairwise.nil
  silent _ h := absurd h List.not_mem_nil
  globals := rfl
  fired := rfl

/-- The journal matters only for what has fired. -/
theorem congr (h : Defers steps stage) (hclock : stage'.clock = stage.clock)
    (hlabels : stage'.labels = stage.labels) (hglobals : stage'.page.globals = stage.page.globals)
    (hfired : firedOnce stage'.journal = firedOnce stage.journal) : Defers steps stage' where
  tidy := hclock ▸ h.tidy
  now := hclock ▸ h.now
  named := ⟨hclock ▸ h.named.lastId, hlabels ▸ h.named.labels⟩
  waiting := hclock ▸ h.waiting
  placed := hclock ▸ h.placed
  silent := hclock ▸ h.silent
  globals := hglobals ▸ h.globals
  fired := hfired ▸ h.fired

section Timeless

variable (h : Defers steps stage) (hadvances : step.advances = false)
  (hnamed : Named (steps ++ [step]) stage')
  (hfired : firedOnce stage'.journal = firedOnce stage.journal)

include h hadvances hnamed hfired

/-- Where no time passes nothing fires, and nothing is written but by the step
itself. -/
theorem timeless (htidy : VirtualClock.Tidy ⟨stage'.clock, []⟩)
    (hnow : stage'.clock.now = stage.clock.now)
    (hwaiting : stage'.clock.onceWaiting.reverse.map QueuedTimer.outline =
      (awaited (steps ++ [step])).map Deferral.outline)
    (hplaced : stage'.clock.onceWaiting.Pairwise fun t u => u.order < t.order)
    (hsilent : ∀ t ∈ stage'.clock.queue, t.period = none ∨ t.callback = none)
    (hglobals : stage'.page.globals =
      (step.writes steps).foldl Globals.assign stage.page.globals) :
    Defers (steps ++ [step]) stage' where
  tidy := htidy
  now := by
    have hpasses : elapsed [step] = 0 := by
      cases step <;> first | rfl | cases hadvances
    rw [hnow, h.now, elapsed_append, hpasses, Nat.add_zero]
  named := hnamed
  waiting := hwaiting
  placed := hplaced
  silent := hsilent
  globals := by rw [hglobals, h.globals, writes_append, List.foldl_append]
  fired := by
    have hnone : step.firesOnce steps = [] := by
      cases step <;> first | rfl | cases hadvances
    rw [hfired, h.fired, onceFirings_append, hnone, List.append_nil]

/-- A step that leaves the clock alone. -/
theorem idle (hschedules : step.schedules? = none)
    (hcancels : ∀ id label, step.cancels id label = false) (hclock : stage'.clock = stage.clock)
    (hglobals : stage'.page.globals =
      (step.writes steps).foldl Globals.assign stage.page.globals) :
    Defers (steps ++ [step]) stage' := by
  refine h.timeless hadvances hnamed hfired (hclock ▸ h.tidy) (by rw [hclock]) ?_ (hclock ▸ h.placed)
    (hclock ▸ h.silent) hglobals
  rw [hclock, h.waiting, awaited_append_of_none hschedules (p := fun _ => true) fun d _ => ?_,
    List.filter_eq_self.mpr fun _ _ => rfl]
  rw [awaitsOnce_onward hadvances, hcancels]
  rfl

/-- A step that cancels. -/
theorem cancel {id : TimerId} (htarget : step.target? stage.labels = some id)
    (hclock : stage'.clock = (stage.clock.cancel id).2)
    (hglobals : stage'.page.globals = stage.page.globals) : Defers (steps ++ [step]) stage' := by
  obtain ⟨hschedules, -, -⟩ := Step.of_target? htarget
  have hbeat : VirtualClock.Beat False ⟨stage.clock, []⟩ (.cleared id (stage.clock.cancel id).1)
      ⟨(stage.clock.cancel id).2, []⟩ := .cancel id
  have honce : (stage.clock.cancel id).2.onceWaiting =
      stage.clock.onceWaiting.filter (·.id != id) := by
    rw [VirtualClock.onceWaiting, VirtualClock.onceWaiting, List.filter_filter,
      VirtualClock.cancel, List.filter_filter]
    exact List.filter_congr fun _ _ => Bool.and_comm _ _
  have hwrites : step.writes steps = [] := by
    cases step <;> first | rfl | cases htarget
  refine h.timeless hadvances hnamed hfired (hclock ▸ h.tidy.beat hbeat) (by rw [hclock]; rfl) ?_ ?_
    ?_ (by rw [hwrites, hglobals]; rfl)
  · have hcancels : ∀ d ∈ awaited steps,
        (!step.cancels d.timer.id d.timer.label) = (d.outline.1 != id) := by
      intro d hd
      have hiff := h.named.cancels_iff step
        (mem_schedulings_of_deferral (List.mem_filter.mp hd).1)
      rw [htarget, Option.some.injEq] at hiff
      refine congrArg Bool.not (Bool.eq_iff_iff.mpr ?_)
      rw [hiff, beq_iff_eq]
      exact eq_comm
    rw [hclock, honce, ← List.filter_reverse, awaited_append_of_none hschedules
      (p := fun d => !step.cancels d.timer.id d.timer.label) fun d _ => awaitsOnce_onward hadvances]
    calc (stage.clock.onceWaiting.reverse.filter (·.id != id)).map QueuedTimer.outline
      _ = (stage.clock.onceWaiting.reverse.map QueuedTimer.outline).filter (·.1 != id) := by
        rw [List.filter_map]
        rfl
      _ = ((awaited steps).filter fun d => d.outline.1 != id).map Deferral.outline := by
        rw [h.waiting, List.filter_map]
        rfl
      _ = _ := by rw [List.filter_congr hcancels]
  · rw [hclock, honce]
    exact h.placed.filter _
  · intro t ht
    rw [hclock] at ht
    exact h.silent t ((VirtualClock.mem_cancel_queue _ _).mp ht).1

/-- A step that schedules. -/
theorem schedule {kind : TimerKind} {label : String} {delay : UInt64}
    (hschedules : step.schedules? = some (kind, label, delay.toNat))
    (honce : kind = .repeating → step.sets? = none)
    (hclock : stage'.clock = (stage.clock.schedule kind step.sets? (.ofMillis delay.toNat)).2)
    (hglobals : stage'.page.globals = stage.page.globals) : Defers (steps ++ [step]) stage' := by
  have hspan := Duration.millis_ofMillis delay.toNat_lt
  have hbeat : VirtualClock.Beat False ⟨stage.clock, []⟩
      (.scheduled ⟨stage.clock.lastId + 1⟩)
      ⟨(stage.clock.schedule kind step.sets? (.ofMillis delay.toNat)).2, []⟩ := .schedule _ _ _
  have hwrites : step.writes steps = [] := by
    cases step <;> first | rfl | cases hschedules
  refine h.timeless hadvances hnamed hfired (hclock ▸ h.tidy.beat hbeat) (by rw [hclock]; rfl) ?_ ?_
    ?_ (by rw [hwrites, hglobals]; rfl)
  · rw [hclock, awaited_append_of_some hschedules, ← h.waiting, ← h.named.lastId, ← h.now]
    cases kind with
    | repeating => exact (List.append_nil _).symm
    | once =>
        have hnew : (stage.clock.scheduledTimer .once step.sets? (.ofMillis delay.toNat)).outline =
            (⟨stage.clock.lastId + 1⟩, saturatingAdd stage.clock.now delay.toNat, step.sets?) := by
          rw [QueuedTimer.outline, VirtualClock.scheduledTimer, VirtualClock.dueFor,
            VirtualClock.periodOf, Option.getD_none, hspan]
        rw [if_pos rfl, ← hnew, ← List.map_singleton, ← List.map_append, ← List.reverse_cons]
        rfl
  · rw [hclock]
    cases kind with
    | repeating => exact h.placed
    | once =>
        refine List.pairwise_cons.mpr ⟨fun t ht => Nat.lt_succ_of_le ?_, h.placed⟩
        exact h.tidy.placed t (VirtualClock.mem_held.mpr (Or.inl (List.mem_filter.mp ht).1))
  · intro t ht
    rw [hclock, VirtualClock.schedule_queue] at ht
    rcases List.mem_cons.mp ht with rfl | ht
    · cases kind with
      | once => exact Or.inl rfl
      | repeating => exact Or.inr (honce rfl)
    · exact h.silent t ht

end Timeless

/-! ### Time that passes -/

/-- Among the one-shot timers that wait, places follow the numbers. -/
theorem id_le_of_order_le (h : Defers steps stage) :
    ∀ t ∈ stage.clock.onceWaiting, ∀ u ∈ stage.clock.onceWaiting, t.order ≤ u.order →
      t.id.value ≤ u.id.value := by
  have hids : (stage.clock.onceWaiting.reverse.map QueuedTimer.outline).Pairwise
      fun a b => a.1.value < b.1.value := by
    rw [h.waiting, List.pairwise_map]
    have hall := pairwise_schedulings steps
    rw [← map_timer_deferrals, List.pairwise_map] at hall
    exact hall.filter _
  rw [List.pairwise_map, List.pairwise_reverse] at hids
  intro t ht u hu
  refine List.Pairwise.forall_of_forall_of_flip
    (R := fun t u => t.order ≤ u.order → t.id.value ≤ u.id.value) (fun _ _ _ => Nat.le_refl _)
    (h.placed.imp fun hlt hle => absurd hlt (Nat.not_lt_of_le hle)) (hids.imp ?_) ht hu
  exact fun hlt _ => Nat.le_of_lt hlt

/-- The one-shot timers that an advance takes are those that come due by the
steps, in their order. -/
theorem taken_eq (h : Defers steps stage) {ms : Nat} {timers : List (QueuedTimer (Option Assignment))}
    (hperm : timers.Perm
      (stage.clock.onceWaiting.filter (·.isDue (some (stage.clock.now + ms)))))
    (hordered : timers.Pairwise fun s t => s.precedes t = true) :
    timers.map QueuedTimer.outline = (comingDue steps ms).map Deferral.outline := by
  have hwaits : ∀ t ∈ timers, t ∈ stage.clock.onceWaiting :=
    fun t ht => (List.mem_filter.mp (hperm.subset ht)).1
  have hdue : (stage.clock.onceWaiting.reverse.filter
        (·.isDue (some (stage.clock.now + ms)))).map QueuedTimer.outline =
      ((awaited steps).filter fun d => d.timer.dueAt ≤ elapsed steps + ms).map Deferral.outline := by
    calc _ = (stage.clock.onceWaiting.reverse.map QueuedTimer.outline).filter
          (·.2.1 ≤ elapsed steps + ms) := by
          rw [List.filter_map, ← h.now]
          rfl
      _ = _ := by
          rw [h.waiting, List.filter_map]
          rfl
  have hcoming : (comingDue steps ms).Perm
      ((awaited steps).filter fun d => d.timer.dueAt ≤ elapsed steps + ms) := by
    rw [comingDue, awaited, List.filter_filter]
    refine (List.mergeSort_perm _ _).trans (.of_eq (List.filter_congr fun d _ => ?_))
    exact Bool.and_comm _ _
  have hsame : (timers.map QueuedTimer.outline).Perm ((comingDue steps ms).map Deferral.outline) := by
    refine ((hperm.trans ((List.reverse_perm _).symm.filter _)).map _).trans ?_
    rw [hdue]
    exact (hcoming.map _).symm
  have hids : ((timers.map QueuedTimer.outline).map (·.1)).Nodup := by
    have hqueue : (stage.clock.queue.map (·.id)).Nodup := by
      simpa [VirtualClock.held] using h.tidy.ids
    rw [List.map_map]
    refine (hperm.map _).nodup_iff.mpr (hqueue.sublist (List.Sublist.map _ ?_))
    exact List.filter_sublist.trans List.filter_sublist
  refine @List.Perm.eq_of_pairwise _
    (fun a b => a.2.1 < b.2.1 ∨ a.2.1 = b.2.1 ∧ a.1.value ≤ b.1.value) _ _ ?_ ?_ ?_ hsame
  · intro a b ha hb hab hba
    have hvalue : a.1.value = b.1.value := by
      omega
    exact List.inj_on_of_nodup_map hids ha (hsame.symm.subset hb) (congrArg TimerId.mk hvalue)
  · rw [List.pairwise_map]
    refine hordered.imp_of_mem fun {t u} ht hu hprecedes => ?_
    have hid := h.id_le_of_order_le t (hwaits t ht) u (hwaits u hu)
    rw [QueuedTimer.precedes_iff] at hprecedes
    exact hprecedes.imp_right (And.imp_right hid)
  · rw [List.pairwise_map]
    exact (sorted_comingDue steps ms).imp fun hbefore => Deferral.firesBefore_iff.mp hbefore

/-- A step that lets time pass. -/
theorem advance (h : Defers steps stage) {ms : UInt64} {timers : List (QueuedTimer (Option Assignment))}
    {drained : VirtualClock.Drained (Option Assignment) (Page TimerId)}
    (hlast : stage.clock.now + ms.toNat ≤ Duration.lastInstant)
    (htook : VirtualClock.Took Stage.assign (.advance ms.toNat (stage.clock.now + ms.toNat))
      stage.clock stage.page stage.journal timers drained) :
    Defers (steps ++ [.advance ms]) (stage.after drained) := by
  obtain ⟨clock', htakes, hclock⟩ := htook.takes
  have hgoal : (VirtualClock.Goal.advance ms.toNat (stage.clock.now + ms.toNat)).InTime := hlast
  obtain ⟨hsilent, hsilent'⟩ :=
    htakes.keep (P := fun period callback => period = none ∨ callback = none) h.silent
  obtain ⟨hperm, hleft⟩ := htakes.once_perm hgoal h.tidy
  have htaken := h.taken_eq hperm (htakes.once_ordered hgoal h.tidy)
  have hnow : clock'.now ≤ stage.clock.now + ms.toNat := htakes.now_le rfl (Nat.le_add_right _ _)
  have honce : (stage.after drained).clock.onceWaiting = clock'.onceWaiting := by
    rw [Stage.after_clock, hclock, VirtualClock.onceWaiting, VirtualClock.reach_queue]
    rfl
  constructor
  case tidy =>
    have hreach : VirtualClock.Beat False ⟨clock', []⟩
        (.reached (clock'.reach (.advance ms.toNat (stage.clock.now + ms.toNat))).now)
        ⟨clock'.reach (.advance ms.toNat (stage.clock.now + ms.toNat)), []⟩ :=
      .reach htakes.quiet_after hgoal (Or.inl rfl)
    rw [Stage.after_clock, hclock]
    exact (htakes.tidy hgoal h.tidy).beat hreach
  case now =>
    have hpasses : elapsed [Step.advance ms] = ms.toNat := Nat.add_zero _
    rw [Stage.after_clock, hclock, elapsed_append, hpasses, ← h.now]
    exact Nat.max_eq_right hnow
  case named =>
    refine h.named.of_unscheduled rfl ?_ rfl
    rw [Stage.after_clock, hclock, VirtualClock.reach_lastId, htakes.lastId_eq]
  case waiting =>
    have hlate : ∀ d ∈ deferrals steps, (d.timer.onward [.advance ms]).awaitsOnce =
        (d.timer.awaitsOnce && !decide (d.timer.dueAt ≤ elapsed steps + ms.toNat)) :=
      fun d hd => awaitsOnce_advance (mem_schedulings_of_deferral hd) ms
    rw [honce, hleft, awaited_append_of_none rfl hlate, ← List.filter_reverse]
    calc _ = (stage.clock.onceWaiting.reverse.map QueuedTimer.outline).filter
          fun t => !decide (t.2.1 ≤ elapsed steps + ms.toNat) := by
          rw [List.filter_map, ← h.now]
          rfl
      _ = _ := by
          rw [h.waiting, List.filter_map]
          rfl
  case placed =>
    rw [honce, hleft]
    exact h.placed.filter _
  case silent =>
    rw [Stage.after_clock, hclock, VirtualClock.reach_queue]
    exact hsilent'
  case globals =>
    have hwritten : (timers.filter (·.isOnce)).filterMap (·.callback) =
        (comingDue steps ms.toNat).filterMap (·.sets) := by
      have houtline := congrArg (List.filterMap (·.2.2)) htaken
      rwa [List.filterMap_map, List.filterMap_map] at houtline
    rw [Stage.after_page, htook.world, Stage.globals_foldl_assign hsilent, hwritten, h.globals,
      writes_append, List.foldl_append]
    rfl
  case fired =>
    have hids : (timers.filter (·.isOnce)).map (·.id) =
        (comingDue steps ms.toNat).map fun d => ⟨d.timer.id⟩ := by
      have houtline := congrArg (List.map (·.1)) htaken
      rwa [List.map_map, List.map_map] at houtline
    have hjournal : (stage.after drained).journal = drained.journal := rfl
    rw [hjournal, htook.fired, h.fired, hids, onceFirings_append, List.map_append,
      List.reverse_append]
    rfl

end Defers

/-! ### Every step -/

theorem NoFiring.firedOnce {events : List (Event TimerId)} (h : NoFiring events)
    (journal : List (Event TimerId)) :
    PageTimers.firedOnce (events.reverse ++ journal) = PageTimers.firedOnce journal := by
  have hnone : events.reverse.filterMap Event.firedOnce? = [] := by
    rw [List.filterMap_eq_nil_iff]
    intro event hevent
    cases hfired : event.firedOnce? with
    | none => rfl
    | some id =>
        have hmem : Event.isFiringOf id event = true := by
          unfold Event.firedOnce? at hfired
          split at hfired
          · cases hfired
            exact beq_self_eq_true id
          · cases hfired
        have hany : hasFired id events = true :=
          List.any_eq_true.mpr ⟨event, List.mem_reverse.mp hevent, hmem⟩
        rw [h] at hany
        cases hany
  rw [PageTimers.firedOnce, List.filterMap_append, hnone]
  rfl

theorem Stage.took_of_drained {settings : Settings} {ms : UInt64} {stage : Stage} {count : Nat}
    (h : (stage.drained settings ms).result = .ok count) :
    stage.clock.now + ms.toNat ≤ Duration.lastInstant ∧
    ∃ timers, VirtualClock.Took assign (.advance ms.toNat (stage.clock.now + ms.toNat))
      stage.clock stage.page stage.journal timers (stage.drained settings ms) := by
  rw [drained] at h ⊢
  exact VirtualClock.took_of_drain assign ms.toNat_lt h

/-- Every step that succeeds writes and puts off what it says. -/
theorem Defers.apply {settings : Settings} {steps : List Step} {step : Step} {stage stage' : Stage}
    (h : Defers steps stage) (hnodup : ((schedulings 0 0 (steps ++ [step])).map (·.label)).Nodup)
    (happlied : Applied settings stage step stage') : Defers (steps ++ [step]) stage' := by
  have hnamed := h.named.apply hnodup happlied
  cases happlied with
  | install =>
      refine h.idle rfl hnamed (stage.page.noFiring_installInterceptor.firedOnce _) rfl
        (fun _ _ => rfl) rfl ?_
      rw [Stage.turnPage_page, Page.installInterceptor_page]
      rfl
  | monitor =>
      refine h.idle rfl hnamed ((stage.page.noFiring_installConfigured _).firedOnce _) rfl
        (fun _ _ => rfl) rfl ?_
      rw [Stage.turnPage_page, Page.installConfigured_page]
      rfl
  | set name value => exact h.idle rfl hnamed rfl rfl (fun _ _ => rfl) rfl rfl
  | schedule kind label delay hschedules honce =>
      have hadvances : step.advances = false := by
        cases step <;> first | rfl | cases hschedules
      refine h.schedule hadvances hnamed ((stage.page.noFiring_noteScheduled kind _).firedOnce _)
        hschedules honce rfl ?_
      rw [Stage.schedule_page, Page.noteScheduled_page]
  | cancel kind id htarget =>
      have hadvances : step.advances = false := by
        cases step <;> first | rfl | cases htarget
      refine h.cancel hadvances hnamed ((stage.page.noFiring_noteCleared kind id _).firedOnce _)
        htarget rfl ?_
      rw [Stage.cancel_page, Page.noteCleared_page]
  | advance ms count hresult =>
      obtain ⟨hlast, timers, htook⟩ := Stage.took_of_drained hresult
      exact h.advance hlast htook

end PageTimers
