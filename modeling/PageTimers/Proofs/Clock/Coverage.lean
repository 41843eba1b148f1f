/-
# What waits, or will wait again

A list of timers that somebody keeps beside the clock is told of some things
and not of others: of what is scheduled and cleared, perhaps, but not of what
fires.  For such a list never to miss a timer it has to hold two kinds:

    waits in the queue
    runs, repeats, and is not cancelled yet

`Covers A` says that `A` holds both.  The second kind is what makes this an
invariant: when its callback returns, such a timer waits again, and nobody is
told.  It is the slot that says whether a running timer was cancelled, so
the slot has to be about the callback under way; this is where drains must
not nest.
-/
import PageTimers.Proofs.Clock.FiringOrder

namespace PageTimers

namespace VirtualClock

variable {α : Type} {A B : TimerId → Prop} {p q : Place α}

/-- `A` holds all timers that wait, and the one that may wait again. -/
structure Covers (A : TimerId → Prop) (p : Place α) : Prop where
  waiting : ∀ t ∈ p.state.queue, A t.id
  running : ∀ id, p.state.running = some ⟨id, .repeating, false⟩ → A id
  /-- The slot is about the callback under way. -/
  noted : ∀ u ∈ p.suspended, ∃ cancelled,
    p.state.running = some ⟨u.timer.id, u.timer.kind, cancelled⟩
  shallow : p.suspended.length ≤ 1

namespace Covers

theorem fresh : Covers A (⟨.fresh, []⟩ : Place α) where
  waiting _ h := absurd h List.not_mem_nil
  running _ h := by cases h
  noted _ h := absurd h List.not_mem_nil
  shallow := Nat.zero_le 1

theorem mono (hp : Covers A p) (hAB : ∀ id, A id → B id) : Covers B p where
  waiting t ht := hAB t.id (hp.waiting t ht)
  running id h := hAB id (hp.running id h)
  noted := hp.noted
  shallow := hp.shallow

/-- A timer that is put into the queue has to be covered. -/
theorem of_push {t : QueuedTimer α} (hp : Covers A p) (hAB : ∀ id, A id → B id) (ht : B t.id)
    (hqueue : q.state.queue = t :: p.state.queue) (hrunning : q.state.running = p.state.running)
    (hus : q.suspended = p.suspended) : Covers B q where
  waiting s hs := by
    rw [hqueue] at hs
    rcases List.mem_cons.mp hs with rfl | hs
    · exact ht
    · exact hAB _ (hp.waiting s hs)
  running id h := hAB id (hp.running id (hrunning ▸ h))
  noted u hu := by
    rw [hrunning]
    exact hp.noted u (hus ▸ hu)
  shallow := hus ▸ hp.shallow

/-- A timer that is cancelled need not be covered any longer. -/
theorem of_cancel {clock : VirtualClock α} {us : List (UnderWay α)} {id : TimerId}
    (hp : Covers A ⟨clock, us⟩) (hAB : ∀ other, A other → other ≠ id → B other) :
    Covers B ⟨(clock.cancel id).2, us⟩ where
  waiting t ht := by
    obtain ⟨ht, hne⟩ := (mem_cancel_queue id clock).mp ht
    exact hAB t.id (hp.waiting t ht) hne
  running other h := by
    have h : (clock.cancel id).2.running = some ⟨other, .repeating, false⟩ := h
    rw [cancel_running, Option.map_eq_some_iff] at h
    obtain ⟨⟨rid, kind, cancelled⟩, hr, he⟩ := h
    simp only [Running.mk.injEq] at he
    obtain ⟨rfl, rfl, hcancelled⟩ := he
    simp only [Bool.or_eq_false_iff, beq_self_eq_true, Bool.and_true, beq_eq_false_iff_ne]
      at hcancelled
    obtain ⟨rfl, hne⟩ := hcancelled
    exact hAB rid (hp.running rid hr) hne
  noted u hu := by
    obtain ⟨cancelled, hr⟩ := hp.noted u hu
    have hr : clock.running = some ⟨u.timer.id, u.timer.kind, cancelled⟩ := hr
    refine ⟨cancelled || (u.timer.id == id && u.timer.kind == .repeating), ?_⟩
    show (clock.cancel id).2.running = _
    rw [cancel_running, hr]
    rfl
  shallow := hp.shallow

/-- A callback that is over leaves no callback under way. -/
theorem of_over {clock clock' : VirtualClock α} {u : UnderWay α} {us : List (UnderWay α)}
    (hp : Covers A ⟨clock, u :: us⟩) (hrunning : clock'.running = none)
    (hqueue : ∀ t ∈ clock'.queue, A t.id) : Covers A ⟨clock', us⟩ where
  waiting := hqueue
  running id h := by
    have h : clock'.running = some ⟨id, .repeating, false⟩ := h
    rw [hrunning] at h
    cases h
  noted v hv := by
    have hle : us.length ≤ 0 := Nat.le_of_succ_le_succ hp.shallow
    rw [List.length_eq_zero_iff.mp (Nat.le_zero.mp hle)] at hv
    exact absurd hv List.not_mem_nil
  shallow := Nat.le_of_succ_le hp.shallow

/-- A repeating timer that is armed again was covered while it ran. -/
theorem finish {clock : VirtualClock α} {u : UnderWay α} {us : List (UnderWay α)}
    (hp : Covers A ⟨clock, u :: us⟩) : Covers A ⟨clock.finish u.timer, us⟩ := by
  refine hp.of_over (finish_running _ _) ?_
  rcases finish_cases u.timer clock with ⟨hrest, -⟩ | ⟨period, hperiod, hcancelled, hqueue, -⟩
  · rw [hrest]
    exact hp.waiting
  · rw [hqueue]
    intro t ht
    rcases List.mem_cons.mp ht with rfl | ht
    · obtain ⟨cancelled, hr⟩ := hp.noted u List.mem_cons_self
      have hr : clock.running = some ⟨u.timer.id, u.timer.kind, cancelled⟩ := hr
      have hkind : u.timer.kind = .repeating := by simp [QueuedTimer.kind, hperiod]
      obtain rfl : cancelled = false := by simpa [wasCancelled, hr] using hcancelled
      rw [hkind] at hr
      exact hp.running u.timer.id hr
    · exact hp.waiting t ht

/-- Every beat keeps the timers covered, if what is scheduled is covered and
only what is cleared is given up. -/
theorem beat {h : Happening α} (hp : Covers A p) (b : Beat False p h q)
    (hAB : ∀ id, A id → (∀ found, h ≠ .cleared id found) → B id)
    (hnew : ∀ id, h = .scheduled id → B id) : Covers B q := by
  cases b with
  | @schedule clock us kind callback delay =>
      exact hp.of_push (fun id hid => hAB id hid fun _ => nofun) (hnew _ rfl)
        (schedule_queue kind callback delay clock) rfl rfl
  | @cancel clock us id =>
      refine hp.of_cancel fun other hother hne => hAB other hother ?_
      rintro found ⟨⟩
      exact hne rfl
  | @start clock us goal left ran timer hnext _ hus =>
      obtain rfl := hus.resolve_right id
      have hkeep : ∀ id, A id → B id := fun id hid => hAB id hid fun _ => nofun
      refine ⟨?_, ?_, ?_, Nat.le_refl 1⟩
      · intro t ht
        exact hkeep _ (hp.waiting t ((mem_start_queue timer clock).mp ht).1)
      · intro id h
        have hid : timer.id = id := congrArg Running.id (Option.some.inj h)
        exact hkeep id (hid ▸ hp.waiting timer (next?_spec hnext).1)
      · intro u hu
        rw [List.mem_singleton] at hu
        subst hu
        exact ⟨false, rfl⟩
  | @reach clock us goal _ _ _ =>
      have hq : Covers A ⟨clock.reach goal, us⟩ := by
        refine ⟨?_, ?_, ?_, hp.shallow⟩
        · rw [reach_queue]
          exact hp.waiting
        · rw [reach_running]
          exact hp.running
        · rw [reach_running]
          exact hp.noted
      exact hq.mono fun id hid => hAB id hid fun _ => nofun
  | @finish clock u us =>
      exact hp.finish.mono fun id hid => hAB id hid fun _ => nofun
  | @abandon clock u us =>
      have hq : Covers A ⟨clock.rest, us⟩ := hp.of_over rfl hp.waiting
      exact hq.mono fun id hid => hAB id hid fun _ => nofun

/-- The same for beat after beat.  What is scheduled on the way has to be
covered in the end even if it was cleared in between. -/
theorem beats {history : List (Happening α)} (h : Beats False p history q) (hp : Covers A p)
    (hAB : ∀ id, A id → (∀ found, .cleared id found ∉ history) → B id)
    (hnew : ∀ id, .scheduled id ∈ history → B id) : Covers B q := by
  induction h generalizing B with
  | refl => exact hp.mono fun id hid => hAB id hid fun _ => List.not_mem_nil
  | @snoc q r before h hbefore b ih =>
      -- halfway: what was not cleared so far, and all that was scheduled
      have hq : Covers (fun id => (A id ∧ ∀ found, .cleared id found ∉ before) ∨
          .scheduled id ∈ before) q :=
        ih (fun id hid hclear => Or.inl ⟨hid, hclear⟩) fun id => Or.inr
      refine hq.beat b ?_ ?_
      · rintro id (⟨hid, hclear⟩ | hid) hh
        · refine hAB id hid fun found hmem => ?_
          rcases List.mem_append.mp hmem with hmem | hmem
          · exact hclear found hmem
          · exact hh found (List.mem_singleton.mp hmem).symm
        · exact hnew id (List.mem_append_left _ hid)
      · rintro id rfl
        exact hnew id (List.mem_append_right _ (List.mem_singleton_self _))

end Covers

/-- A callback under way was started in the past; and if its timer was not
cleared since, the slot says so. -/
theorem uncancelled_of_underWay {history : List (Happening α)}
    (h : Beats False ⟨.fresh, []⟩ history q) :
    ∀ u ∈ q.suspended, ∃ earlier now since, history = earlier ++ .started u.timer now :: since ∧
      ((∀ found, .cleared u.timer.id found ∉ since) →
        q.state.running = some ⟨u.timer.id, u.timer.kind, false⟩) := by
  induction h with
  | refl => exact fun u hu => absurd hu List.not_mem_nil
  | @snoc q r before h hbefore b ih =>
      have hshallow : q.suspended.length ≤ 1 := (Chronological.beats hbefore).shallow
      cases b with
      | @schedule clock us kind callback delay =>
          intro u hu
          obtain ⟨earlier, now, since, rfl, hslot⟩ := ih u hu
          refine ⟨earlier, now, since ++ [.scheduled ⟨clock.lastId + 1⟩], by simp, ?_⟩
          exact fun hclear => hslot fun found hmem => hclear found (List.mem_append_left _ hmem)
      | @cancel clock us id =>
          intro u hu
          obtain ⟨earlier, now, since, rfl, hslot⟩ := ih u hu
          refine ⟨earlier, now, since ++ [.cleared id (clock.cancel id).1], by simp, ?_⟩
          intro hclear
          have hr : clock.running = some ⟨u.timer.id, u.timer.kind, false⟩ :=
            hslot fun found hmem => hclear found (List.mem_append_left _ hmem)
          have hne : u.timer.id ≠ id := by
            rintro rfl
            exact hclear _ (List.mem_append_right _ (List.mem_singleton_self _))
          show (clock.cancel id).2.running = _
          rw [cancel_running, hr]
          simp [hne]
      | @start clock us goal left ran timer _ _ hus =>
          obtain rfl := hus.resolve_right id
          intro u hu
          rw [List.mem_singleton] at hu
          subst hu
          exact ⟨before, _, [], rfl, fun _ => rfl⟩
      | reach _ _ hus =>
          obtain rfl := hus.resolve_right id
          exact fun u hu => absurd hu List.not_mem_nil
      | @finish clock v us | @abandon clock v us =>
          -- there was only the one callback
          have hle : us.length ≤ 0 := Nat.le_of_succ_le_succ hshallow
          intro u hu
          rw [List.length_eq_zero_iff.mp (Nat.le_zero.mp hle)] at hu
          exact absurd hu List.not_mem_nil

/-- Where nothing waits and nothing runs, nothing is started until something
is scheduled. -/
theorem idle_of_unscheduled {nests : Prop} {later : List (Happening α)} (h : Beats nests p later q)
    (hqueue : p.state.queue = []) (hus : p.suspended = [])
    (hnew : ∀ id, .scheduled id ∉ later) :
    firings later = [] ∧ q.state.queue = [] ∧ q.suspended = [] := by
  induction h with
  | refl => exact ⟨rfl, hqueue, hus⟩
  | @snoc q r before h _ b ih =>
      obtain ⟨hfirings, hqueue, hus⟩ := ih fun id hmem => hnew id (List.mem_append_left _ hmem)
      cases b with
      | schedule => exact absurd (List.mem_append_right _ (List.mem_singleton_self _)) (hnew _)
      | @cancel clock us id =>
          rw [firings_unfired before rfl]
          refine ⟨hfirings, List.eq_nil_iff_forall_not_mem.mpr fun t ht => ?_, hus⟩
          have hqueue : clock.queue = [] := hqueue
          have hmem := ((mem_cancel_queue id clock).mp ht).1
          rw [hqueue] at hmem
          exact List.not_mem_nil hmem
      | @start clock us goal left ran timer hnext _ _ =>
          have hmem : timer ∈ clock.queue := (next?_spec hnext).1
          have hqueue : clock.queue = [] := hqueue
          rw [hqueue] at hmem
          exact absurd hmem List.not_mem_nil
      | reach =>
          rw [firings_unfired before rfl, reach_queue]
          exact ⟨hfirings, hqueue, hus⟩
      | finish | abandon => cases hus

theorem not_scheduled_of_drain {move : Move (VirtualClock α) (UnderWay α) TimerId α}
    {id : TimerId} : .scheduled id ∉ drainHappenings move := by
  unfold drainHappenings
  split
  · simp
  · simp
  · simp
  · simp

end VirtualClock

end PageTimers
