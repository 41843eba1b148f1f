/-
# What a scenario leaves outstanding

The interceptor hears of the timers that are scheduled once it is there, and of
what is cancelled then.  It hears neither of what fires nor of what the clock
shows.  So the steps alone tell what is outstanding:

    numbers      the k-th step that schedules is given the number k
    watched      the timers scheduled after the first step that installs
    outstanding  those of them that no later step asks to cancel

and leaving out steps that only let time pass or set a global changes nothing
(`outstandingBy_filter`), although it changes what fires, and when.
-/
import Mathlib.Data.List.Sort
import PageTimers.Proofs.Page.Exactness
import PageTimers.Proofs.Scenario.Steps

namespace PageTimers

/-! ## By the steps -/

namespace Step

def installsInterceptor : Step → Bool
  | installInterceptor => true
  | _ => false

/-- Whether a step does more than to let time pass or to set a global. -/
def concernsTimers : Step → Bool
  | advance _ => false
  | setGlobal .. => false
  | _ => true

theorem installsInterceptor_iff {step : Step} :
    step.installsInterceptor = true ↔ step = .installInterceptor := by
  cases step <;> simp [installsInterceptor]

end Step

/-- The timers that the interceptor hears of, once it is there: those that are
scheduled later. -/
def watched : (now lastId : Nat) → List Step → Option (List Scheduling)
  | _, _, [] => none
  | now, lastId, step :: rest =>
    if step.installsInterceptor then some (schedulings now lastId rest)
    else watched (now + step.passes) (lastId + if step.gives?.isSome then 1 else 0) rest

/-- The timers that are outstanding, by the steps. -/
def outstandingBy (steps : List Step) : Option (List TimerId) :=
  (watched 0 0 steps).map fun timers => (timers.filter (!·.isCancelled)).map fun s => ⟨s.id⟩

section Watched

variable {now lastId index : Nat} {step : Step} {steps : List Step} {timers : List Scheduling}
  {s : Scheduling}

theorem watched_cons_of_installs (h : step.installsInterceptor = true) :
    watched now lastId (step :: steps) = some (schedulings now lastId steps) := if_pos h

theorem watched_cons_of_not (h : step.installsInterceptor = false) :
    watched now lastId (step :: steps) = watched (now + step.passes)
      (lastId + if step.gives?.isSome then 1 else 0) steps := by
  rw [watched, h]
  rfl

theorem gives?_of_installs (h : step.installsInterceptor = true) :
    step.gives? = none ∧ step.schedules? = none ∧ step.passes = 0 := by
  rw [Step.installsInterceptor_iff.mp h]
  exact ⟨rfl, rfl, rfl⟩

theorem watched_eq_none_iff : watched now lastId steps = none ↔
    ∀ step ∈ steps, step ≠ .installInterceptor := by
  induction steps generalizing now lastId with
  | nil => simp [watched]
  | cons step steps ih =>
      rw [List.forall_mem_cons, ne_eq, ← Step.installsInterceptor_iff]
      cases hstep : step.installsInterceptor with
      | true => simp [watched_cons_of_installs hstep]
      | false => simp [watched_cons_of_not hstep, ih]

theorem watched_append (steps more : List Step) (now lastId : Nat) :
    watched now lastId (steps ++ more) = match watched now lastId steps with
      | some timers => some (timers.map (·.onward more) ++
          schedulings (now + elapsed steps) (lastId + (schedulings now lastId steps).length) more)
      | none =>
          watched (now + elapsed steps) (lastId + (schedulings now lastId steps).length) more := by
  induction steps generalizing now lastId with
  | nil => rfl
  | cons step steps ih =>
      rw [length_schedulings, List.countP_cons, elapsed_cons, ← length_schedulings now lastId steps]
      cases hstep : step.installsInterceptor with
      | true =>
          obtain ⟨hgives, -, hpasses⟩ := gives?_of_installs hstep
          rw [List.cons_append, watched_cons_of_installs hstep, watched_cons_of_installs hstep,
            schedulings_append, hgives, hpasses, Nat.zero_add]
          rfl
      | false =>
          rw [List.cons_append, watched_cons_of_not hstep, watched_cons_of_not hstep, ih,
            length_schedulings _ _ steps, length_schedulings _ _ steps, Nat.add_assoc now,
            Nat.add_assoc lastId, Nat.add_comm (List.countP _ steps)]

/-- What is watched is what the steps after the first installation schedule. -/
theorem mem_watched_iff (now lastId : Nat) {install : Nat}
    (hinstall : steps[install]? = some .installInterceptor)
    (hfirst : ∀ index < install, steps[index]? ≠ some .installInterceptor) :
    ∃ timers, watched now lastId steps = some timers ∧
      ∀ s, s ∈ timers ↔ ∃ index, install < index ∧ ScheduledAt now lastId steps index s := by
  induction steps generalizing now lastId install with
  | nil => cases hinstall
  | cons step steps ih =>
      have hsplit : ∀ (P : Nat → Prop) (bound : Nat),
          (∃ index, bound < index ∧ P index) ↔ ∃ index, bound ≤ index ∧ P (index + 1) := by
        intro P bound
        constructor
        · rintro ⟨_ | index, hlt, h⟩
          · exact absurd hlt (Nat.not_lt_zero _)
          · exact ⟨index, Nat.le_of_lt_succ hlt, h⟩
        · rintro ⟨index, hle, h⟩
          exact ⟨index + 1, Nat.lt_succ_of_le hle, h⟩
      cases install with
      | zero =>
          have hstep : step.installsInterceptor = true :=
            Step.installsInterceptor_iff.mpr (Option.some.inj hinstall)
          obtain ⟨hgives, -, hpasses⟩ := gives?_of_installs hstep
          refine ⟨_, watched_cons_of_installs hstep, fun s => ?_⟩
          rw [hsplit, mem_schedulings_iff]
          simp [scheduledAt_succ, hgives, hpasses]
      | succ install =>
          have hstep : step.installsInterceptor = false := by
            rw [← Bool.not_eq_true, Step.installsInterceptor_iff]
            rintro rfl
            exact hfirst 0 (Nat.succ_pos _) rfl
          obtain ⟨timers, htimers, hmem⟩ := ih (now + step.passes)
            (lastId + if step.gives?.isSome then 1 else 0) hinstall
            fun index hlt => hfirst (index + 1) (Nat.succ_lt_succ hlt)
          refine ⟨timers, (watched_cons_of_not hstep).trans htimers, fun s => ?_⟩
          refine (hmem s).trans (.trans ?_ (hsplit _ (install + 1)).symm)
          simp only [scheduledAt_succ, Nat.succ_le_iff]

theorem sublist_of_watched (h : watched now lastId steps = some timers) :
    timers.Sublist (schedulings now lastId steps) := by
  induction steps generalizing now lastId with
  | nil => cases h
  | cons step steps ih =>
      cases hstep : step.installsInterceptor with
      | true =>
          obtain ⟨-, hschedules, hpasses⟩ := gives?_of_installs hstep
          rw [watched_cons_of_installs hstep, Option.some.injEq] at h
          rw [schedulings_cons_none _ _ _ hschedules, hpasses, ← h]
          exact .refl _
      | false =>
          rw [watched_cons_of_not hstep, Step.gives?_eq] at h
          cases hschedules : step.schedules? with
          | none =>
              rw [hschedules] at h
              rw [schedulings_cons_none _ _ _ hschedules]
              exact ih h
          | some scheduled =>
              rw [hschedules, Step.passes_of_schedules hschedules] at h
              rw [schedulings_cons_some _ _ _ hschedules]
              exact (ih h).cons _

end Watched

/-! ### What has nothing to do with it -/

/-- All that matters of a timer for what is outstanding. -/
def Scheduling.outline (s : Scheduling) : TimerId × Bool := (⟨s.id⟩, s.isCancelled)

section Filter

variable (now later lastId : Nat) (steps : List Step)

theorem any_cancels_filter (id : Nat) (label : String) :
    (steps.filter Step.concernsTimers).any (Step.cancels id label) =
      steps.any (Step.cancels id label) := by
  rw [List.any_filter]
  congr 1
  funext step
  cases step <;> rfl

theorem schedulings_filter :
    (schedulings now lastId (steps.filter Step.concernsTimers)).map Scheduling.outline =
      (schedulings later lastId steps).map Scheduling.outline := by
  induction steps generalizing now later lastId with
  | nil => rfl
  | cons step steps ih =>
      cases hschedules : step.schedules? with
      | none =>
          rw [schedulings_cons_none _ _ _ hschedules]
          cases hconcerns : step.concernsTimers with
          | true =>
              rw [List.filter_cons_of_pos hconcerns, schedulings_cons_none _ _ _ hschedules]
              exact ih _ _ _
          | false =>
              rw [List.filter_cons_of_neg (by rw [hconcerns]; exact Bool.false_ne_true)]
              exact ih _ _ _
      | some scheduled =>
          have hconcerns : step.concernsTimers = true := by
            cases step <;> first | rfl | cases hschedules
          rw [List.filter_cons_of_pos hconcerns, schedulings_cons_some _ _ _ hschedules,
            schedulings_cons_some _ _ _ hschedules, List.map_cons, List.map_cons, ih _ later]
          simp only [Scheduling.outline, Scheduling.isCancelled, any_cancels_filter]

theorem watched_filter :
    (watched now lastId (steps.filter Step.concernsTimers)).map (·.map Scheduling.outline) =
      (watched later lastId steps).map (·.map Scheduling.outline) := by
  induction steps generalizing now later lastId with
  | nil => rfl
  | cons step steps ih =>
      cases hinstalls : step.installsInterceptor with
      | true =>
          have hconcerns : step.concernsTimers = true := by
            rw [Step.installsInterceptor_iff.mp hinstalls]
            rfl
          rw [List.filter_cons_of_pos hconcerns, watched_cons_of_installs hinstalls,
            watched_cons_of_installs hinstalls, Option.map_some, Option.map_some,
            schedulings_filter _ later]
      | false =>
          rw [watched_cons_of_not hinstalls]
          cases hconcerns : step.concernsTimers with
          | true =>
              rw [List.filter_cons_of_pos hconcerns, watched_cons_of_not hinstalls]
              exact ih _ _ _
          | false =>
              have hgives : step.gives? = none := by
                cases step <;> first | rfl | cases hconcerns
              rw [List.filter_cons_of_neg (by rw [hconcerns]; exact Bool.false_ne_true), hgives]
              exact ih _ _ _

/-- Steps that let time pass or set a global leave alone what is
outstanding. -/
theorem outstandingBy_filter :
    outstandingBy (steps.filter Step.concernsTimers) = outstandingBy steps := by
  have houtline : ∀ steps, outstandingBy steps =
      ((watched 0 0 steps).map (·.map Scheduling.outline)).map
        fun timers => (timers.filter fun t => !t.2).map (·.1) := by
    intro steps
    rw [outstandingBy, Option.map_map]
    refine congrArg (Option.map · _) (funext fun timers => ?_)
    rw [Function.comp_apply, List.filter_map, List.map_map]
    rfl
  rw [houtline, houtline, watched_filter 0 0]

end Filter

/-! ## By the page -/

namespace Outstanding

/-- The set holds the timers that were watched and not cancelled. -/
def Holds (timers : List Scheduling) (set : Outstanding TimerId) : Prop :=
  ∀ id, id ∈ set.ids ↔ ∃ s ∈ timers, s.isCancelled = false ∧ id = ⟨s.id⟩

section Holds

variable {timers : List Scheduling} {set : Outstanding TimerId} {step : Step}

theorem holds_empty : Holds [] .empty := by
  intro id
  simp [empty]

/-- After one more step that is left of them which it does not ask to cancel. -/
theorem Holds.onward (h : Holds timers set) {set' : Outstanding TimerId} {target : Option TimerId}
    (hcancels : ∀ s ∈ timers, step.cancels s.id s.label = true ↔ target = some ⟨s.id⟩)
    (hset : ∀ id, id ∈ set'.ids ↔ id ∈ set.ids ∧ target ≠ some id) :
    Holds (timers.map (·.onward [step])) set' := by
  have hlive : ∀ s ∈ timers, (s.onward [step]).isCancelled = false ↔
      s.isCancelled = false ∧ target ≠ some ⟨s.id⟩ := by
    intro s hs
    rw [ne_eq, ← not_congr (hcancels s hs), Bool.not_eq_true, ← Bool.or_eq_false_iff]
    simp [Scheduling.isCancelled, Scheduling.onward]
  intro id
  rw [hset, h]
  constructor
  · rintro ⟨⟨s, hs, hnot, rfl⟩, htarget⟩
    exact ⟨s.onward [step], List.mem_map_of_mem hs, (hlive s hs).mpr ⟨hnot, htarget⟩, rfl⟩
  · rintro ⟨t, ht, hnot, rfl⟩
    obtain ⟨s, hs, rfl⟩ := List.mem_map.mp ht
    obtain ⟨hnot, htarget⟩ := (hlive s hs).mp hnot
    exact ⟨⟨s, hs, hnot, rfl⟩, htarget⟩

theorem Holds.insert (h : Holds timers set) {s : Scheduling} (hs : s.isCancelled = false) :
    Holds (timers ++ [s]) (set.insert ⟨s.id⟩) := by
  intro id
  rw [mem_insert, h]
  constructor
  · rintro (rfl | ⟨t, ht, hlive, rfl⟩)
    · exact ⟨s, List.mem_append_right _ List.mem_cons_self, hs, rfl⟩
    · exact ⟨t, List.mem_append_left _ ht, hlive, rfl⟩
  · rintro ⟨t, ht, hlive, rfl⟩
    rcases List.mem_append.mp ht with ht | ht
    · exact Or.inr ⟨t, ht, hlive, rfl⟩
    · rw [List.mem_singleton.mp ht]
      exact Or.inl rfl

/-- Numbered in ascending order, the timers come in the order of the view. -/
theorem Holds.sorted (h : Holds timers set) (hids : timers.Pairwise (·.id < ·.id)) :
    set.sorted = (timers.filter (!·.isCancelled)).map fun s => ⟨s.id⟩ := by
  have hirrefl : Std.Irrefl fun a b : TimerId => a.value < b.value := ⟨fun _ => Nat.lt_irrefl _⟩
  have hantisymm : Std.Antisymm fun a b : TimerId => a.value < b.value :=
    ⟨fun _ _ hab hba => absurd hba (Nat.lt_asymm hab)⟩
  have hshows := shows_of_mem_iff h
  have hascending : set.sorted.Pairwise fun a b => a.value < b.value :=
    hshows.sorted_ascending.imp fun {a b} hle =>
      Nat.lt_of_le_of_ne (of_decide_eq_true hle.1) fun hvalue =>
        hle.2 (congrArg TimerId.mk hvalue)
  refine List.Pairwise.eq_of_mem_iff hascending (List.pairwise_map.mpr (hids.filter _)) fun id => ?_
  rw [hshows.sorted, List.mem_map]
  refine exists_congr fun s => ?_
  rw [List.mem_filter, Bool.not_eq_true', and_assoc, @eq_comm _ id]

end Holds

end Outstanding

/-- The interceptor has heard of the steps that have led to a stage. -/
structure Watches (steps : List Step) (stage : Stage) : Prop where
  named : Named steps stage
  outstanding : Option.Rel Outstanding.Holds (watched 0 0 steps) stage.page.outstanding

namespace Watches

variable {settings : Settings} {steps : List Step} {step : Step} {stage stage' : Stage}

theorem fresh : Watches [] Stage.fresh := ⟨.fresh, .none⟩

/-- The events that a stage has in its journal do not matter. -/
theorem congr (h : Watches steps stage) (hlastId : stage'.clock.lastId = stage.clock.lastId)
    (hlabels : stage'.labels = stage.labels)
    (houtstanding : stage'.page.outstanding = stage.page.outstanding) : Watches steps stage' :=
  ⟨⟨hlastId ▸ h.named.lastId, hlabels ▸ h.named.labels⟩, houtstanding ▸ h.outstanding⟩

/-- Either there is no interceptor, or it holds what was watched. -/
theorem none_or_some (h : Watches steps stage) :
    watched 0 0 steps = none ∧ stage.page.outstanding = none ∨
      ∃ timers set, watched 0 0 steps = some timers ∧ stage.page.outstanding = some set ∧
        Outstanding.Holds timers set := by
  have hrel := h.outstanding
  cases hwatched : watched 0 0 steps <;> cases hpage : stage.page.outstanding <;>
    rw [hwatched, hpage] at hrel <;> cases hrel
  · exact Or.inl ⟨rfl, rfl⟩
  · next timers set hholds => exact Or.inr ⟨timers, set, rfl, rfl, hholds⟩

/-- What the page shows is what the steps tell. -/
theorem sorted (h : Watches steps stage) :
    stage.page.outstanding.map (·.sorted) = outstandingBy steps := by
  rw [outstandingBy]
  rcases h.none_or_some with ⟨hwatched, hpage⟩ | ⟨timers, set, hwatched, hpage, hholds⟩
  · rw [hwatched, hpage]
    rfl
  · rw [hwatched, hpage, Option.map_some, Option.map_some,
      hholds.sorted ((pairwise_schedulings steps).sublist (sublist_of_watched hwatched))]

section Step

variable (h : Watches steps stage) (hnamed : Named (steps ++ [step]) stage')

include h

theorem cancels_iff {timers : List Scheduling} (hwatched : watched 0 0 steps = some timers) :
    ∀ s ∈ timers, step.cancels s.id s.label = true ↔ step.target? stage.labels = some ⟨s.id⟩ :=
  fun _ hs => h.named.cancels_iff step ((sublist_of_watched hwatched).subset hs)

include hnamed

/-- The interceptor appears, or is there already. -/
theorem install (hstep : step = .installInterceptor)
    (hset : stage'.page.outstanding = some (stage.page.outstanding.getD .empty)) :
    Watches (steps ++ [step]) stage' := by
  subst hstep
  refine ⟨hnamed, ?_⟩
  rw [watched_append, hset]
  rcases h.none_or_some with ⟨hwatched, hpage⟩ | ⟨timers, set, hwatched, hpage, hholds⟩
  · rw [hwatched, hpage]
    exact .some Outstanding.holds_empty
  · rw [hwatched, hpage]
    refine .some ?_
    rw [schedulings_cons_none _ _ _ rfl, schedulings, List.append_nil]
    exact hholds.onward (h.cancels_iff hwatched) fun id => by simp [Step.target?]

/-- Any other step changes the set only where it is there. -/
theorem follow (hinstalls : step.installsInterceptor = false)
    (change : Outstanding TimerId → Outstanding TimerId)
    (hset : stage'.page.outstanding = stage.page.outstanding.map change)
    (hchange : ∀ timers set, watched 0 0 steps = some timers → Outstanding.Holds timers set →
      Outstanding.Holds (timers.map (·.onward [step]) ++
        schedulings (elapsed steps) (schedulings 0 0 steps).length [step]) (change set)) :
    Watches (steps ++ [step]) stage' := by
  refine ⟨hnamed, ?_⟩
  rw [watched_append, hset, Nat.zero_add, Nat.zero_add]
  rcases h.none_or_some with ⟨hwatched, hpage⟩ | ⟨timers, set, hwatched, hpage, hholds⟩
  · rw [hwatched, hpage]
    dsimp only
    rw [watched_cons_of_not hinstalls]
    exact .none
  · rw [hwatched, hpage]
    exact .some (hchange timers set hwatched hholds)

/-- A step that schedules nothing leaves of the set what it does not ask to
cancel. -/
theorem unscheduled (hinstalls : step.installsInterceptor = false) (hschedules : step.schedules? = none)
    (change : Outstanding TimerId → Outstanding TimerId)
    (hset : stage'.page.outstanding = stage.page.outstanding.map change)
    (hchange : ∀ set id, id ∈ (change set).ids ↔
      id ∈ set.ids ∧ step.target? stage.labels ≠ some id) : Watches (steps ++ [step]) stage' := by
  refine h.follow hnamed hinstalls change hset fun timers set hwatched hholds => ?_
  rw [schedulings_cons_none _ _ _ hschedules, schedulings, List.append_nil]
  exact hholds.onward (h.cancels_iff hwatched) (hchange set)

/-- A step that neither installs, nor schedules, nor cancels. -/
theorem idle (hinstalls : step.installsInterceptor = false) (hschedules : step.schedules? = none)
    (htarget : step.target? stage.labels = none)
    (hset : stage'.page.outstanding = stage.page.outstanding) : Watches (steps ++ [step]) stage' := by
  refine h.unscheduled hnamed hinstalls hschedules id ?_ fun set other => ?_
  · rw [hset, Option.map_id_fun, id]
  · simp [htarget]

end Step

/-- Every step that succeeds is heard of as it is. -/
theorem apply (h : Watches steps stage)
    (hnodup : ((schedulings 0 0 (steps ++ [step])).map (·.label)).Nodup)
    (happlied : Applied settings stage step stage') : Watches (steps ++ [step]) stage' := by
  have hnamed := h.named.apply hnodup happlied
  cases happlied with
  | install =>
      refine h.install hnamed rfl ?_
      rw [Stage.turnPage_page, Page.installInterceptor_page]
  | monitor =>
      refine h.idle hnamed rfl rfl rfl ?_
      rw [Stage.turnPage_page, Page.installConfigured_page]
  | set => exact h.idle hnamed rfl rfl rfl rfl
  | advance ms count hresult =>
      refine h.idle hnamed rfl rfl rfl ?_
      obtain ⟨globals, hpage⟩ := stage.drained_page settings ms
      rw [Stage.after_page, hpage]
  | cancel kind id htarget =>
      obtain ⟨hschedules, -, -⟩ := Step.of_target? htarget
      have hinstalls : step.installsInterceptor = false := by
        cases step <;> first | rfl | cases htarget
      refine h.unscheduled hnamed hinstalls hschedules (·.erase id) ?_ fun set other => ?_
      · rw [Stage.cancel_page, Page.noteCleared_page]
      · rw [Outstanding.mem_erase, htarget, ne_eq, ne_eq, Option.some.injEq, and_comm, eq_comm]
  | schedule kind label delay hschedules _ =>
      have hinstalls : step.installsInterceptor = false := by
        cases step <;> first | rfl | cases hschedules
      have htarget : step.target? stage.labels = none := by
        cases step <;> first | rfl | cases hschedules
      refine h.follow hnamed hinstalls (·.insert ⟨stage.clock.lastId + 1⟩) ?_
        fun timers set hwatched hholds => ?_
      · rw [Stage.schedule_page, Page.noteScheduled_page]
      · rw [schedulings_cons_some _ _ _ hschedules, schedulings, ← h.named.lastId]
        refine Outstanding.Holds.insert (hholds.onward (h.cancels_iff hwatched) fun id => ?_) rfl
        simp [htarget]

end Watches

/-! ## Along a run -/

namespace Scenario

variable {settings : Settings} {scenario : Scenario} {index : Nat} {report : StepReport}

theorem watches_upTo {count : Nat} {reports : List StepReport} (hvalid : scenario.validate = .ok ())
    (hreached : (scenario.upTo settings count).result = .ok reports) :
    Watches (scenario.steps.take count) (scenario.upTo settings count).stage := by
  refine upTo_applied (I := Watches) hvalid (Watches.fresh.congr rfl rfl rfl) ?_ hreached
  intro steps step stage stage' index answer hnodup h happlied
  exact (h.apply hnodup happlied).congr rfl rfl rfl

namespace Reports

theorem watches (h : scenario.Reports settings index report) {count : Nat} (hcount : count ≤ index + 1) :
    Watches (scenario.steps.take count) (scenario.upTo settings count).stage := by
  obtain ⟨before, hbefore⟩ := h.reached_of_le hcount
  exact watches_upTo h.valid hbefore

/-- What is reported to be outstanding is what the steps tell. -/
theorem outstanding_eq (h : scenario.Reports settings index report) :
    report.outstanding = outstandingBy (scenario.steps.take (index + 1)) := by
  rw [h.stands.2.1]
  exact (h.watches (Nat.le_refl _)).sorted

section Labels

variable {count giver : Nat} {label : String} (h : scenario.Reports settings index report)

include h

/-- At every stage of the run a label stands for the timer of the step that has
given it. -/
theorem labels_iff (hcount : count ≤ index + 1) {id : TimerId} :
    (scenario.upTo settings count).stage.labels.get? label = some id ↔
      ∃ giver < count, scenario.steps[giver]?.bind Step.gives? = some label ∧
        id = ⟨numberAt scenario.steps giver⟩ := by
  rw [(h.watches hcount).named.labels_iff]
  constructor
  · rintro ⟨giver, hgives, rfl⟩
    obtain ⟨hgiver, hgives⟩ := gives_take_iff.mp hgives
    exact ⟨giver, hgiver, hgives, by rw [numberAt_take hgiver]⟩
  · rintro ⟨giver, hgiver, hgives, rfl⟩
    exact ⟨giver, gives_take_iff.mpr ⟨hgiver, hgives⟩, by rw [numberAt_take hgiver]⟩

/-- The timer of a step is given the number that counts it. -/
theorem lastId_before (hgiver : giver ≤ index)
    (hgives : scenario.steps[giver]?.bind Step.gives? = some label) :
    (scenario.upTo settings giver).stage.clock.lastId + 1 = numberAt scenario.steps giver := by
  obtain ⟨step, hstep, hlabel⟩ := Option.bind_eq_some_iff.mp hgives
  rw [(h.watches (Nat.le_succ_of_le hgiver)).named.lastId, length_schedulings, numberAt,
    List.take_add_one, hstep, Option.toList_some, List.countP_append, List.countP_singleton, hlabel]
  rfl

/-- A later step cancels a timer where its label stands for it then, or its
number is given. -/
theorem cancels_iff {later : Nat} (hgiver : giver < later) (hlater : later ≤ index) (step : Step)
    (hgives : scenario.steps[giver]?.bind Step.gives? = some label) :
    step.cancels (numberAt scenario.steps giver) label = true ↔
      step.target? (scenario.upTo settings later).stage.labels =
        some ⟨numberAt scenario.steps giver⟩ := by
  obtain ⟨s, hs, rfl⟩ :=
    (exists_scheduledAt_iff 0 0).mpr (gives_take_iff.mpr ⟨hgiver, hgives⟩)
  have hid : s.id = numberAt scenario.steps giver := by
    rw [hs.id, Nat.zero_add, numberAt_take hgiver]
  have hiff := (h.watches (Nat.le_succ_of_le hlater)).named.cancels_iff step
    (mem_schedulings_iff.mpr ⟨giver, hs⟩)
  rwa [hid] at hiff

/-- No step until then asks to cancel the timer of a step before. -/
theorem isCancelled_iff (hgiver : giver ≤ index) {s : Scheduling}
    (hs : ScheduledAt 0 0 (scenario.steps.take (index + 1)) giver s) :
    s.isCancelled = false ↔ ∀ later step, giver < later → later ≤ index →
      scenario.steps[later]? = some step →
        step.target? (scenario.upTo settings later).stage.labels ≠ some ⟨s.id⟩ := by
  have hgives : scenario.steps[giver]?.bind Step.gives? = some s.label :=
    (gives_take_iff.mp ((exists_scheduledAt_iff 0 0).mp ⟨s, hs, rfl⟩)).2
  have hid : s.id = numberAt scenario.steps giver := by
    rw [hs.id, Nat.zero_add, numberAt_take (Nat.lt_succ_of_le hgiver)]
  rw [Scheduling.isCancelled, List.any_eq_false, hid]
  constructor
  · intro hnone later step hlt hle hat htarget
    obtain ⟨place, rfl⟩ := Nat.exists_eq_add_of_le (Nat.succ_le_of_lt hlt)
    have hmem : step ∈ s.since := List.mem_of_getElem? (hs.getElem?_since.mpr ⟨hle, hat⟩)
    exact hnone step hmem ((h.cancels_iff hlt hle step hgives).mpr htarget)
  · intro hnone step hmem hcancels
    obtain ⟨place, hat⟩ := List.mem_iff_getElem?.mp hmem
    obtain ⟨hle, hat⟩ := hs.getElem?_since.mp hat
    have hlt : giver < giver + 1 + place := by omega
    exact hnone _ step hlt hle hat ((h.cancels_iff hlt hle step hgives).mp hcancels)

end Labels

section Installed

variable (h : scenario.Reports settings index report)

include h

theorem outstanding_eq_none_iff : report.outstanding = none ↔
    ∀ install ≤ index, scenario.steps[install]? ≠ some .installInterceptor := by
  rw [h.outstanding_eq, outstandingBy, Option.map_eq_none_iff, watched_eq_none_iff]
  constructor
  · intro hnone install hle hat
    exact hnone .installInterceptor (mem_take_iff.mpr ⟨install, Nat.lt_succ_of_le hle, hat⟩) rfl
  · rintro hnone step hstep rfl
    obtain ⟨install, hlt, hat⟩ := mem_take_iff.mp hstep
    exact hnone install (Nat.le_of_lt_succ hlt) hat

/-- Of the timers scheduled after the first installation those are outstanding
that no step has asked to cancel since. -/
theorem outstanding_of_installed {install : Nat} (hle : install ≤ index)
    (hinstall : scenario.steps[install]? = some .installInterceptor)
    (hfirst : ∀ before < install, scenario.steps[before]? ≠ some .installInterceptor) :
    ∃ ids, report.outstanding = some ids ∧ ids.Pairwise (·.value < ·.value) ∧
      ∀ id, id ∈ ids ↔ ∃ giver label, install < giver ∧ giver ≤ index ∧
        scenario.steps[giver]?.bind Step.gives? = some label ∧
        id = ⟨numberAt scenario.steps giver⟩ ∧
        ∀ later step, giver < later → later ≤ index → scenario.steps[later]? = some step →
          step.target? (scenario.upTo settings later).stage.labels ≠ some id := by
  have htake : ∀ place ≤ index, (scenario.steps.take (index + 1))[place]? = scenario.steps[place]? :=
    fun place hplace => List.getElem?_take_of_lt (Nat.lt_succ_of_le hplace)
  obtain ⟨timers, htimers, hmem⟩ := mem_watched_iff 0 0
    ((htake install hle).trans hinstall) fun before hlt => by
      rw [htake before (by omega)]
      exact hfirst before hlt
  have hids : timers.Pairwise (·.id < ·.id) := (pairwise_schedulings _).sublist
    (sublist_of_watched htimers)
  refine ⟨(timers.filter (!·.isCancelled)).map fun s => ⟨s.id⟩, ?_,
    List.pairwise_map.mpr (hids.filter _), fun id => ?_⟩
  · rw [h.outstanding_eq, outstandingBy, htimers]
    rfl
  · rw [List.mem_map]
    constructor
    · rintro ⟨s, hs, rfl⟩
      rw [List.mem_filter, Bool.not_eq_true'] at hs
      obtain ⟨giver, hlt, hat⟩ := (hmem s).mp hs.1
      obtain ⟨hgiver, hgives⟩ := gives_take_iff.mp ((exists_scheduledAt_iff 0 0).mp ⟨s, hat, rfl⟩)
      rw [Nat.lt_succ_iff] at hgiver
      refine ⟨giver, s.label, hlt, hgiver, hgives, ?_, (h.isCancelled_iff hgiver hat).mp hs.2⟩
      rw [hat.id, Nat.zero_add, numberAt_take (Nat.lt_succ_of_le hgiver)]
    · rintro ⟨giver, label, hlt, hgiver, hgives, rfl, hnone⟩
      obtain ⟨s, hat, rfl⟩ := (exists_scheduledAt_iff 0 0).mpr
        (gives_take_iff.mpr ⟨Nat.lt_succ_of_le hgiver, hgives⟩)
      have hid : s.id = numberAt scenario.steps giver := by
        rw [hat.id, Nat.zero_add, numberAt_take (Nat.lt_succ_of_le hgiver)]
      rw [← hid] at hnone
      refine ⟨s, ?_, congrArg TimerId.mk hid⟩
      rw [List.mem_filter, Bool.not_eq_true']
      exact ⟨(hmem s).mpr ⟨giver, hlt, hat⟩, (h.isCancelled_iff hgiver hat).mpr hnone⟩

end Installed

end Reports

/-- The labels of a run that has ended well stand for the timers in the order of
the steps that gave them. -/
theorem labels_of_run {whole : ScenarioReport} (hrun : (scenario.run settings).result = .ok whole)
    {label : String} {id : TimerId} : whole.labels.get? label = some id ↔
      ∃ giver, scenario.steps[giver]?.bind Step.gives? = some label ∧
        id = ⟨numberAt scenario.steps giver⟩ := by
  obtain ⟨hreached, hlabels⟩ := run_of_ok hrun
  have hnamed := (watches_upTo (valid_of_run hrun) hreached).named
  rw [List.take_length] at hnamed
  rw [hlabels, hnamed.labels_iff]

/-- So the reports of such a run tell what is outstanding as the steps do. -/
theorem outstanding_of_run {whole : ScenarioReport} (hrun : (scenario.run settings).result = .ok whole)
    (hreport : whole.steps[index]? = some report) :
    report.outstanding = outstandingBy (scenario.steps.take (index + 1)) :=
  ((reports_iff_of_run hrun).mpr hreport).outstanding_eq

/-- **What is outstanding depends on the steps, and never on time.**  For each
step that a run comes to report:

* every step that schedules is handed the number that counts it, and its label
  stands for that number then and in the end;
* nothing is tracked as long as no step has installed the interceptor;
* from then on, in ascending order, the timers scheduled after the first such
  step that no later step has asked to cancel, by a label that stood for them or
  by their number;
* and any other run, of whatever scenario and under whatever settings, reports
  the same of a step if the two differ until there only in steps that let time
  pass or set a global. -/
theorem outstanding_from_steps (h : scenario.Reports settings index report) :
    (∀ giver ≤ index, ∀ label, scenario.steps[giver]?.bind Step.gives? = some label →
      (∀ kind callback delay,
        ((scenario.upTo settings giver).stage.clock.schedule kind callback delay).1 =
          ⟨numberAt scenario.steps giver⟩) ∧
      (scenario.upTo settings (index + 1)).stage.labels.get? label =
        some ⟨numberAt scenario.steps giver⟩ ∧
      ∀ whole, (scenario.run settings).result = .ok whole →
        whole.labels.get? label = some ⟨numberAt scenario.steps giver⟩) ∧
    (report.outstanding = none ↔
      ∀ install ≤ index, scenario.steps[install]? ≠ some .installInterceptor) ∧
    (∀ install ≤ index, scenario.steps[install]? = some .installInterceptor →
      (∀ before < install, scenario.steps[before]? ≠ some .installInterceptor) →
      ∃ ids, report.outstanding = some ids ∧ ids.Pairwise (·.value < ·.value) ∧
        ∀ id, id ∈ ids ↔ ∃ giver label, install < giver ∧ giver ≤ index ∧
          scenario.steps[giver]?.bind Step.gives? = some label ∧
          id = ⟨numberAt scenario.steps giver⟩ ∧
          ∀ later step, giver < later → later ≤ index → scenario.steps[later]? = some step →
            step.target? (scenario.upTo settings later).stage.labels ≠ some id) ∧
    ∀ (settings' : Settings) (scenario' : Scenario) (index' : Nat) (report' : StepReport),
      scenario'.Reports settings' index' report' →
      (scenario'.steps.take (index' + 1)).filter Step.concernsTimers =
        (scenario.steps.take (index + 1)).filter Step.concernsTimers →
      report'.outstanding = report.outstanding := by
  refine ⟨fun giver hgiver label hgives => ⟨fun kind callback delay => ?_, ?_, fun whole hrun => ?_⟩,
    h.outstanding_eq_none_iff, fun install hle => h.outstanding_of_installed hle,
    fun settings' scenario' index' report' h' hsame => ?_⟩
  · rw [VirtualClock.schedule_id, h.lastId_before hgiver hgives]
  · exact (h.labels_iff (Nat.le_refl _)).mpr ⟨giver, Nat.lt_succ_of_le hgiver, hgives, rfl⟩
  · exact (labels_of_run hrun).mpr ⟨giver, hgives, rfl⟩
  · rw [h'.outstanding_eq, h.outstanding_eq, ← outstandingBy_filter, hsame, outstandingBy_filter]

/-- One timer is scheduled too early to be watched, and one of two others is
cancelled; the steps in between that let time pass are left out where `idle` is
false. -/
def errand (idle : Bool) : Scenario where
  name := "errand"
  description := none
  steps := [.scheduleOnce "early" 5 none, .installInterceptor, .scheduleRepeating "poll" 10] ++
    (if idle then [.advance 25] else []) ++ [.scheduleOnce "late" 5 none, .cancelId 3]

/-- Whether the poll has fired in between or not, it is outstanding. -/
theorem errand_leaves_poll : ∃ report report', (errand true).Reports {} 5 report ∧
    (errand false).Reports {} 4 report' ∧ report'.outstanding = report.outstanding ∧
    ∃ ids, report.outstanding = some ids ∧ ⟨2⟩ ∈ ids := by
  obtain ⟨report, h⟩ : ∃ report, (errand true).Reports {} 5 report :=
    exists_reports (by decide +kernel) (by decide) (by decide +kernel)
  obtain ⟨report', h'⟩ : ∃ report, (errand false).Reports {} 4 report :=
    exists_reports (by decide +kernel) (by decide) (by decide +kernel)
  obtain ⟨-, -, hinstalled, htimeless⟩ := outstanding_from_steps h
  have hfirst : ∀ before < 1, (errand true).steps[before]? ≠ some .installInterceptor := by
    intro before hlt hat
    obtain rfl := Nat.lt_one_iff.mp hlt
    cases hat
  obtain ⟨ids, hids, -, hmem⟩ := hinstalled 1 (by decide) rfl hfirst
  refine ⟨report, report', h, h', htimeless _ _ _ _ h' rfl, ids, hids, (hmem ⟨2⟩).mpr ?_⟩
  refine ⟨2, "poll", by decide, by decide, rfl, rfl, fun later step hlt hle hat htarget => ?_⟩
  obtain rfl | rfl | rfl : later = 3 ∨ later = 4 ∨ later = 5 := by omega
  all_goals
    cases hat
    cases htarget

end Scenario

end PageTimers
