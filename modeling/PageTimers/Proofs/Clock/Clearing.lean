/-
# What a clear answers

A clear says whether it stopped a timer.  The clock computes the answer from
what it holds: a timer of that identifier waits, or it is the repeating timer
whose callback is under way, and nobody has cancelled it yet (`Stoppable`).
What a program knows is its history (`Unspent`):

    the timer was handed out
    no clear has stopped it yet
    its callback has not thrown
    if it fires once, its callback has not been started

Where callbacks do not drain, the two say the same (`stoppable_iff_unspent`).
The proof goes beat by beat, with two lemmas of one shape for each: what the
beat does to `Stoppable`, and what it does to `Unspent`.  A return changes
neither, although it moves a repeating timer from the slot back into the
queue; this is where the slot has to be about the callback that returns.
-/
import Mathlib.Data.List.Basic
import PageTimers.Proofs.Clock.Cancellation
import PageTimers.Proofs.Clock.Coverage

namespace PageTimers

/-- The timer that a happening is about.  A clear that stopped nothing is
about no timer: its identifier need not have been handed out. -/
def Happening.subject? {α : Type} : Happening α → Option TimerId
  | scheduled id => some id
  | cleared id found => if found then some id else none
  | started timer _ => some timer.id
  | returned timer => some timer.id
  | threw timer => some timer.id
  | reached _ => none

/-! ## In the history -/

/-- What a history says of a timer that can still be stopped. -/
structure Unspent {α : Type} (id : TimerId) (history : List (Happening α)) : Prop where
  issued : .scheduled id ∈ history
  uncleared : .cleared id true ∉ history
  unthrown : ∀ t, .threw t ∈ history → t.id ≠ id
  /-- A timer that was started goes on only if it repeats. -/
  repeats : ∀ t now, .started t now ∈ history → t.id = id → t.kind = .repeating

namespace Unspent

variable {α : Type} {id : TimerId} {history : List (Happening α)} {x : Happening α}

theorem append_iff : Unspent id (history ++ [x]) ↔
    (.scheduled id ∈ history ∨ .scheduled id = x) ∧
    ¬ (.cleared id true ∈ history ∨ .cleared id true = x) ∧
    (∀ t, .threw t ∈ history ∨ .threw t = x → t.id ≠ id) ∧
    ∀ t now, .started t now ∈ history ∨ .started t now = x → t.id = id → t.kind = .repeating := by
  constructor
  · rintro ⟨hissued, huncleared, hunthrown, hrepeats⟩
    simp only [List.mem_append, List.mem_singleton] at hissued huncleared hunthrown hrepeats
    exact ⟨hissued, huncleared, hunthrown, hrepeats⟩
  · rintro ⟨hissued, huncleared, hunthrown, hrepeats⟩
    constructor <;> simpa only [List.mem_append, List.mem_singleton]

/-- A happening that is not about the timer leaves it as it was. -/
theorem append_of_other (hx : x.subject? ≠ some id) :
    Unspent id (history ++ [x]) ↔ Unspent id history := by
  have hscheduled : ¬ .scheduled id = x := fun h => hx (h ▸ rfl)
  have hcleared : ¬ .cleared id true = x := fun h => hx (h ▸ rfl)
  have hthrew : ∀ t, .threw t = x → t.id ≠ id := fun t h he => hx (by rw [← h, ← he]; rfl)
  have hstarted : ∀ t now, .started t now = x → t.id ≠ id :=
    fun t now h he => hx (by rw [← h, ← he]; rfl)
  rw [append_iff, or_iff_left hscheduled, or_iff_left hcleared]
  constructor
  · rintro ⟨hissued, huncleared, hunthrown, hrepeats⟩
    exact ⟨hissued, huncleared, fun t ht => hunthrown t (Or.inl ht),
      fun t now ht => hrepeats t now (Or.inl ht)⟩
  · rintro ⟨hissued, huncleared, hunthrown, hrepeats⟩
    exact ⟨hissued, huncleared, fun t ht => ht.elim (hunthrown t) (hthrew t),
      fun t now ht hid => ht.elim (hrepeats t now · hid) fun h => absurd hid (hstarted t now h)⟩

theorem append_returned (t : QueuedTimer α) :
    Unspent id (history ++ [.returned t]) ↔ Unspent id history := by
  simp only [append_iff, reduceCtorEq, or_false]
  exact ⟨fun ⟨h₁, h₂, h₃, h₄⟩ => ⟨h₁, h₂, h₃, h₄⟩, fun ⟨h₁, h₂, h₃, h₄⟩ => ⟨h₁, h₂, h₃, h₄⟩⟩

theorem append_cleared (found : Bool) :
    Unspent id (history ++ [.cleared id found]) ↔ found = false ∧ Unspent id history := by
  cases found with
  | false => simp [append_of_other (x := .cleared id false) (by simp [Happening.subject?])]
  | true => simp [append_iff]

theorem not_append_threw (t : QueuedTimer α) : ¬ Unspent t.id (history ++ [.threw t]) :=
  fun h => h.unthrown t (List.mem_append_right _ (List.mem_singleton_self _)) rfl

theorem append_started (t : QueuedTimer α) (now : Nat) :
    Unspent t.id (history ++ [.started t now]) ↔ t.kind = .repeating ∧ Unspent t.id history := by
  constructor
  · intro h
    refine ⟨h.repeats t now (List.mem_append_right _ (List.mem_singleton_self _)) rfl, ?_⟩
    obtain ⟨hissued, huncleared, hunthrown, hrepeats⟩ := append_iff.mp h
    exact ⟨hissued.resolve_right (by simp), fun hc => huncleared (Or.inl hc),
      fun s hs => hunthrown s (Or.inl hs), fun s at' hs => hrepeats s at' (Or.inl hs)⟩
  · rintro ⟨hkind, hissued, huncleared, hunthrown, hrepeats⟩
    refine append_iff.mpr ⟨Or.inl hissued, by simpa using huncleared, by simpa using hunthrown, ?_⟩
    rintro s at' (hs | hs) hid
    · exact hrepeats s at' hs hid
    · cases hs
      exact hkind

/-- A timer that nothing has happened to can be stopped once it is handed out. -/
theorem append_scheduled (hnew : ∀ y ∈ history, y.subject? ≠ some id) :
    Unspent id (history ++ [.scheduled id]) := by
  refine append_iff.mpr ⟨Or.inr rfl, ?_, ?_, ?_⟩
  · rintro (h | h)
    · exact hnew _ h rfl
    · cases h
  · rintro t (h | h) he
    · exact hnew _ h (congrArg some he)
    · cases h
  · rintro t now (h | h) he
    · exact absurd (congrArg some he) (hnew _ h)
    · cases h

end Unspent

namespace VirtualClock

variable {α : Type} {id : TimerId} {clock : VirtualClock α} {us : List (UnderWay α)}
  {u : UnderWay α} {history : List (Happening α)} {p q : Place α}

/-! ## At the clock -/

/-- There is something that clearing `id` would stop: it waits, or it is
under way and will wait again. -/
def Stoppable (id : TimerId) (clock : VirtualClock α) : Prop :=
  id ∈ clock.queue.map (·.id) ∨ clock.running = some ⟨id, .repeating, false⟩

theorem stopsRunning_iff :
    clock.stopsRunning id = true ↔ clock.running = some ⟨id, .repeating, false⟩ := by
  unfold stopsRunning
  cases clock.running with
  | none => simp
  | some r =>
      obtain ⟨rid, kind, cancelled⟩ := r
      simp [and_assoc]

theorem cancel_found_iff : (clock.cancel id).1 = true ↔ clock.Stoppable id := by
  rw [cancel, Bool.or_eq_true, stopsRunning_iff]
  simp [Stoppable]

/-! ### What the beats do to it -/

theorem stoppable_schedule (kind : TimerKind) (callback : α) (delay : Duration) :
    (clock.schedule kind callback delay).2.Stoppable id ↔
      id = ⟨clock.lastId + 1⟩ ∨ clock.Stoppable id := by
  rw [Stoppable, schedule_queue, schedule_running, List.map_cons, List.mem_cons, or_assoc]
  rfl

theorem stoppable_cancel (other : TimerId) :
    (clock.cancel other).2.Stoppable id ↔ id ≠ other ∧ clock.Stoppable id := by
  have hwaits : id ∈ (clock.cancel other).2.queue.map (·.id) ↔
      id ≠ other ∧ id ∈ clock.queue.map (·.id) := by
    simp only [List.mem_map, mem_cancel_queue]
    constructor
    · rintro ⟨t, ⟨ht, hne⟩, rfl⟩
      exact ⟨hne, t, ht, rfl⟩
    · rintro ⟨hne, t, ht, rfl⟩
      exact ⟨t, ⟨ht, hne⟩, rfl⟩
  have hrunning : (clock.cancel other).2.running = some ⟨id, .repeating, false⟩ ↔
      id ≠ other ∧ clock.running = some ⟨id, .repeating, false⟩ := by
    rw [cancel_running]
    cases clock.running with
    | none => simp
    | some r =>
        obtain ⟨rid, kind, cancelled⟩ := r
        simp only [Option.map_some, Option.some.injEq, Running.mk.injEq, Bool.or_eq_false_iff]
        constructor
        · rintro ⟨rfl, rfl, hcancelled, hother⟩
          exact ⟨by simpa using hother, rfl, rfl, hcancelled⟩
        · rintro ⟨hne, rfl, rfl, hcancelled⟩
          exact ⟨rfl, rfl, hcancelled, by simpa using hne⟩
  rw [Stoppable, hwaits, hrunning, ← and_or_left]
  rfl

theorem stoppable_reach (goal : Goal) : (clock.reach goal).Stoppable id ↔ clock.Stoppable id := by
  rw [Stoppable, reach_queue, reach_running]
  rfl

theorem Tidy.idle (h : Tidy (⟨clock, []⟩ : Place α)) : clock.running = none := by
  cases hr : clock.running with
  | none => rfl
  | some r =>
      obtain ⟨u, us, hnil, -⟩ := h.slot r hr
      cases hnil

/-- Where nothing is under way, a clear that stops a timer takes it out of the
queue, and it alone. -/
theorem Tidy.length_cancel (h : Tidy (⟨clock, []⟩ : Place α)) (id : TimerId) :
    clock.queue.length = (clock.cancel id).2.queue.length + (clock.cancel id).1.toNat := by
  have hids : (clock.queue.map (·.id)).Nodup := by
    simpa [held] using h.ids
  have htaken : (clock.queue.filter (·.id == id)).length = (clock.cancel id).1.toNat := by
    cases hfound : (clock.cancel id).1 with
    | true =>
        have hwaits := (cancel_found_iff.mp hfound).resolve_right (by simp [h.idle])
        obtain ⟨t, ht, rfl⟩ := List.mem_map.mp hwaits
        rw [filter_id_eq_singleton ht hids]
        rfl
    | false =>
        have hnone : clock.queue.filter (·.id == id) = [] := by
          rw [List.filter_eq_nil_iff]
          intro t ht hid
          rw [cancel_found_iff.mpr (Or.inl (beq_iff_eq.mp hid ▸ List.mem_map_of_mem ht))] at hfound
          cases hfound
        rw [hnone]
        rfl
  have hleft : (clock.cancel id).2.queue = clock.queue.filter fun t => !(t.id == id) := rfl
  rw [hleft, ← htaken, Nat.add_comm]
  exact List.length_eq_length_filter_add _

/-- A timer that is started waits no longer; it can be stopped if it repeats. -/
theorem stoppable_start {timer : QueuedTimer α} {deadline : Option Nat}
    (h : Tidy (⟨clock, []⟩ : Place α)) (hnext : clock.next? deadline = some timer) :
    (clock.start timer).Stoppable id ↔
      (id = timer.id → timer.kind = .repeating) ∧ clock.Stoppable id := by
  have horders : (clock.queue.map (·.order)).Nodup :=
    h.orders.sublist ((List.sublist_append_left _ _).map _)
  have hids : (clock.queue.map (·.id)).Nodup := h.ids.sublist ((List.sublist_append_left _ _).map _)
  have hperm : (clock.queue.map (·.id)).Perm (timer.id :: (clock.start timer).queue.map (·.id)) :=
    (perm_filter_order (next?_spec hnext).1 horders).map _
  have hgone : timer.id ∉ (clock.start timer).queue.map (·.id) :=
    (List.nodup_cons.mp (hperm.nodup_iff.mp hids)).1
  rw [Stoppable, Stoppable, start_running, h.idle, hperm.mem_iff, List.mem_cons]
  by_cases hid : id = timer.id
  · subst hid
    simp [hgone]
  · have hslot : ¬ (⟨timer.id, timer.kind, false⟩ : Running) = ⟨id, .repeating, false⟩ :=
      fun he => hid (congrArg Running.id he).symm
    simp [hid, hslot]

section Over

variable (htidy : Tidy ⟨clock, u :: us⟩)
  (hslot : ∃ cancelled, clock.running = some ⟨u.timer.id, u.timer.kind, cancelled⟩)

include hslot

/-- A callback that returns leaves what it would have been to clear its
timer. -/
theorem stoppable_finish : (clock.finish u.timer).Stoppable id ↔ clock.Stoppable id := by
  obtain ⟨cancelled, hr⟩ := hslot
  have hcancelled : clock.wasCancelled = cancelled := by rw [wasCancelled, hr]
  rw [Stoppable, Stoppable, finish_running, hr]
  rcases finish_cases u.timer clock with ⟨hrest, hover⟩ | ⟨period, hperiod, hc, hqueue, -⟩
  · -- it is not to come back
    have hgone : ¬ (⟨u.timer.id, u.timer.kind, cancelled⟩ : Running) = ⟨id, .repeating, false⟩ := by
      rw [Running.mk.injEq]
      rintro ⟨-, hkind, hfalse⟩
      rcases hover with hnone | htrue
      · rw [QueuedTimer.kind, hnone] at hkind
        cases hkind
      · rw [hcancelled, hfalse] at htrue
        cases htrue
    simp [hrest, hgone]
  · have hkind : u.timer.kind = .repeating := by rw [QueuedTimer.kind, hperiod]
    rw [hc] at hcancelled
    rw [hqueue, List.map_cons, List.mem_cons, hkind, ← hcancelled]
    simp [rearmed, or_comm, eq_comm]

include htidy

theorem stoppable_rest : clock.rest.Stoppable id ↔ id ≠ u.timer.id ∧ clock.Stoppable id := by
  obtain ⟨cancelled, hr⟩ := hslot
  rw [Stoppable, Stoppable, rest_queue, rest_running, hr]
  constructor
  · rintro (hqueue | hnone)
    · obtain ⟨t, ht, rfl⟩ := List.mem_map.mp hqueue
      exact ⟨htidy.innermost_id t (List.mem_append_left _ ht), Or.inl hqueue⟩
    · cases hnone
  · rintro ⟨hne, hqueue | hsome⟩
    · exact Or.inl hqueue
    · exact absurd (congrArg Running.id (Option.some.inj hsome)).symm hne

end Over

/-! ## The two agree -/

theorem issued_of_stoppable (htidy : Tidy p) (h : p.state.Stoppable id) :
    id.value ≤ p.state.lastId := by
  rcases h with hqueue | hr
  · obtain ⟨t, ht, rfl⟩ := List.mem_map.mp hqueue
    exact (htidy.issued t (mem_held.mpr (Or.inl ht))).2
  · obtain ⟨u, us, hus, rfl, -⟩ := htidy.slot _ hr
    exact (htidy.issued u.timer (mem_held.mpr (Or.inr ⟨u, hus ▸ List.mem_cons_self, rfl⟩))).2

/-- Things only happen to timers that were handed out. -/
theorem subject_issued {nests : Prop} (h : Beats nests ⟨.fresh, []⟩ history q) :
    ∀ x ∈ history, ∀ id, x.subject? = some id → id.value ≤ q.state.lastId := by
  induction h with
  | refl => exact fun x hx => absurd hx List.not_mem_nil
  | @snoc q r before x hbefore b ih =>
      have htidy : Tidy q := tidy_fresh.beats hbefore
      intro y hy id hid
      rcases List.mem_append.mp hy with hy | hy
      · exact Nat.le_trans (ih y hy id hid) (lastId_le_beat b)
      · rw [List.mem_singleton] at hy
        subst hy
        have hheld : ∀ t ∈ held q, some t.id = some id → id.value ≤ q.state.lastId := by
          rintro t ht ⟨⟩
          exact (htidy.issued t ht).2
        cases b with
        | schedule =>
            cases hid
            exact Nat.le_refl _
        | @cancel clock us other =>
            cases hfound : (clock.cancel other).1 with
            | false => simp [Happening.subject?, hfound] at hid
            | true =>
                obtain rfl : other = id := by simpa [Happening.subject?, hfound] using hid
                have hissued : other.value ≤ clock.lastId :=
                  issued_of_stoppable htidy (cancel_found_iff.mp hfound)
                exact hissued
        | start hnext => exact hheld _ (mem_held.mpr (Or.inl (next?_spec hnext).1)) hid
        | reach => cases hid
        | @finish clock u us =>
            rw [finish_lastId]
            exact hheld _ (mem_held.mpr (Or.inr ⟨u, List.mem_cons_self, rfl⟩)) hid
        | @abandon clock u us =>
            exact hheld _ (mem_held.mpr (Or.inr ⟨u, List.mem_cons_self, rfl⟩)) hid

/-- Where callbacks do not drain, the clock and the history agree on what can
be stopped. -/
theorem stoppable_iff_unspent (h : Beats False ⟨.fresh, []⟩ history q) (id : TimerId) :
    q.state.Stoppable id ↔ Unspent id history := by
  induction h with
  | refl =>
      refine iff_of_false ?_ fun h => List.not_mem_nil h.issued
      rintro (h | h)
      · exact List.not_mem_nil h
      · cases h
  | @snoc q r before x hbefore b ih =>
      have htidy : Tidy q := tidy_fresh.beats hbefore
      have hcovers : Covers (fun _ => True) q :=
        Covers.beats (A := fun _ => True) hbefore .fresh (fun _ _ _ => trivial) fun _ _ => trivial
      cases b with
      | @schedule clock us kind callback delay =>
          rw [stoppable_schedule, ih]
          by_cases hid : id = ⟨clock.lastId + 1⟩
          · subst hid
            have hnew : ∀ y ∈ before, y.subject? ≠ some ⟨clock.lastId + 1⟩ := fun y hy hy' =>
              Nat.not_succ_le_self _ (subject_issued hbefore y hy _ hy')
            exact iff_of_true (Or.inl rfl) (.append_scheduled hnew)
          · have hother :
                (Happening.scheduled ⟨clock.lastId + 1⟩ : Happening α).subject? ≠ some id :=
              fun he => hid (Option.some.inj he).symm
            rw [Unspent.append_of_other hother, or_iff_right hid]
      | @cancel clock us other =>
          rw [stoppable_cancel, ih]
          by_cases hid : id = other
          · subst hid
            have hfound : (clock.cancel id).1 = false ↔ ¬ Unspent id before := by
              rw [← ih, ← cancel_found_iff, Bool.not_eq_true]
            rw [Unspent.append_cleared, hfound]
            exact iff_of_false (fun h => h.1 rfl) fun h => h.1 h.2
          · have hother : (Happening.cleared other (clock.cancel other).1 :
                Happening α).subject? ≠ some id := by
              simp [Happening.subject?, Ne.symm hid]
            rw [Unspent.append_of_other hother, and_iff_right hid]
      | @start clock us goal left ran timer hnext _ hus =>
          obtain rfl := hus.resolve_right not_false
          rw [stoppable_start htidy hnext, ih]
          by_cases hid : id = timer.id
          · subst hid
            rw [Unspent.append_started, forall_prop_of_true rfl]
          · have hother : (Happening.started timer (clock.start timer).now :
                Happening α).subject? ≠ some id := fun he => hid (Option.some.inj he).symm
            rw [Unspent.append_of_other hother, and_iff_right fun he => absurd he hid]
      | reach =>
          rw [stoppable_reach, ih, Unspent.append_of_other (by simp [Happening.subject?])]
      | @finish clock u us =>
          rw [stoppable_finish (hcovers.noted u List.mem_cons_self), ih, Unspent.append_returned]
      | @abandon clock u us =>
          rw [stoppable_rest htidy (hcovers.noted u List.mem_cons_self), ih]
          by_cases hid : id = u.timer.id
          · subst hid
            exact iff_of_false (fun h => h.1 rfl) (Unspent.not_append_threw u.timer)
          · have hother : (Happening.threw u.timer : Happening α).subject? ≠ some id :=
              fun he => hid (Option.some.inj he).symm
            rw [Unspent.append_of_other hother, and_iff_right hid]

end VirtualClock

/-! ## Whole runs -/

namespace ClockSession

/-- **Clears tell the truth, and touch nothing else.**  Where no callback
drains, a clear answers that it stopped the timer exactly if the timer was
handed out, no earlier clear was answered so, its callback has not thrown, and
it repeats or was not started yet.  It is all the same which kind of clear it
is; the clock and its counters stay as they are, and so do all other timers,
those that wait and the one that runs. -/
theorem clear_truthful (limit : Nat) (globals : Globals) {actions : List (Action TimerId)}
    (hcalm : ∀ a ∈ actions, a.calm = true) (n : Nat) {kind : TimerKind} {id : TimerId}
    (hclear : ((fresh globals actions).after limit n).contact? limit =
      some (.ask (.clear kind id))) :
    let earlier := (fresh globals actions).history limit n
    let before := (fresh globals actions).after limit n
    let after := (fresh globals actions).after limit (n + 1)
    (∃ caller action found,
      after.machine.world.log =
        .did caller action (.answered (.ok (.cleared found))) :: before.machine.world.log ∧
      (fresh globals actions).history limit (n + 1) = earlier ++ [.cleared id found] ∧
      (found = true ↔ Unspent id earlier)) ∧
    (∀ other, VirtualClock.ask limit (.clear other id) before.clock =
      VirtualClock.ask limit (.clear kind id) before.clock) ∧
    after.clock.queue = before.clock.queue.filter (·.id != id) ∧
    (∀ r, before.clock.running = some r → r.id ≠ id → after.clock.running = some r) ∧
    after.clock.now = before.clock.now ∧ after.clock.lastId = before.clock.lastId ∧
    after.clock.lastOrder = before.clock.lastOrder := by
  intro earlier before after
  have hsite : after.clock = (before.clock.cancel id).2 :=
    congrArg Site.state (Session.site_of_contact hclear)
  have hhistory : (fresh globals actions).history limit (n + 1) =
      earlier ++ [.cleared id (before.clock.cancel id).1] :=
    congrArg (earlier ++ ·) (happenings_of_contact hclear)
  have hanswer : (VirtualClock.ask limit (.clear kind id) before.clock).outcome =
      .answer (.ok (.cleared (before.clock.cancel id).1)) := rfl
  obtain ⟨caller, action, hlog⟩ := Session.log_of_answer hclear hanswer
  refine ⟨⟨caller, action, _, hlog, hhistory, ?_⟩, fun _ => rfl, ?_, ?_, ?_⟩
  · rw [VirtualClock.cancel_found_iff]
    exact VirtualClock.stoppable_iff_unspent (beats_of_calm limit globals hcalm n) id
  · rw [hsite]
    rfl
  · rintro ⟨other, otherKind, cancelled⟩ hr hne
    have hne : other ≠ id := hne
    rw [hsite, VirtualClock.cancel_running, hr]
    simp [hne]
  · rw [hsite]
    exact ⟨rfl, rfl, rfl⟩

/-- It clears its own timer, and then again by the other call. -/
def quitterTick : Handler TimerId :=
  .mk false [] [.clear .page .repeating .self, .clear .page .once .self]

def quitterActions : List (Action TimerId) :=
  [.schedule .page .repeating (.ofMillis 10) none quitterTick, .drain (.advance (.ofMillis 10))]

/-- Only the first of the two clears stops the timer. -/
theorem quitter_cleared_once :
    (∀ a ∈ quitterActions, a.calm = true) ∧
    ((fresh .empty quitterActions).after 5 6).contact? 5 = some (.ask (.clear .repeating ⟨1⟩)) ∧
    ((fresh .empty quitterActions).after 5 7).contact? 5 = some (.ask (.clear .once ⟨1⟩)) ∧
    Unspent ⟨1⟩ ((fresh .empty quitterActions).history 5 6) ∧
    ¬ Unspent ⟨1⟩ ((fresh .empty quitterActions).history 5 7) := by
  have hcalm : ∀ a ∈ quitterActions, a.calm = true := by decide
  have hfirst : ((fresh .empty quitterActions).after 5 6).contact? 5 =
      some (.ask (.clear .repeating ⟨1⟩)) := rfl
  have hsecond : ((fresh .empty quitterActions).after 5 7).contact? 5 =
      some (.ask (.clear .once ⟨1⟩)) := rfl
  obtain ⟨⟨_, _, found, hlog, -, hunspent⟩, -⟩ := clear_truthful 5 .empty hcalm 6 hfirst
  obtain ⟨⟨_, _, found', hlog', -, hspent⟩, -⟩ := clear_truthful 5 .empty hcalm 7 hsecond
  -- the log says what the two clears answered
  cases hlog
  cases hlog'
  exact ⟨hcalm, hfirst, hsecond, hunspent.mp rfl, fun h => Bool.false_ne_true (hspent.mpr h)⟩

end ClockSession

end PageTimers
