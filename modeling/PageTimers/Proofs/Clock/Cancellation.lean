/-
# When cancelling is final

A timer that was cancelled should never fire again.  For a timer that waits
this is plain: it leaves the queue, and nothing puts it back.  A repeating
timer whose callback is under way is in no queue; whether it goes back when
the callback returns is up to the `running` slot, and there is only one such
slot.  A drain inside the callback that starts another timer takes the slot
over and leaves it empty, and with it goes the note that the outer timer was
cancelled, or the place where such a note could be made.

So cancelling is final with one exception, and the exception is exact
(`clear_final_unless_interrupted`):

    started t … cleared t.id … returned t     with another start in between

Then the timer is armed again when its callback returns, whatever the clear
had answered; in every other case no callback of it starts any more.

The first half follows a history from the clear on, with the invariant
`Quieted` (the timer is not in the queue, and the only thing that could bring
it back is an interrupted callback); the second half follows it from the
start of the callback on, with `Unnoted` up to the return and `Live` after.
-/
import PageTimers.Proofs.Clock.Identity

namespace PageTimers

/-- Some callback is started. -/
def Starts {α : Type} (history : List (Happening α)) : Prop :=
  ∃ t now, .started t now ∈ history

/-- A callback of this timer is started. -/
def StartsOf {α : Type} (id : TimerId) (history : List (Happening α)) : Prop :=
  ∃ t now, .started t now ∈ history ∧ t.id = id

/-- A callback of `t` is under way where a history is cut into `before` and
`after`; it returns, leaving `rest`; and between its start and its return
another callback was started. -/
def Interrupted {α : Type} (t : QueuedTimer α) (before after rest : List (Happening α)) : Prop :=
  ∃ earlier now since meanwhile,
    before = earlier ++ .started t now :: since ∧ after = meanwhile ++ .returned t :: rest ∧
      Starts (since ++ meanwhile)

section Starts

variable {α : Type} {first second : List (Happening α)} {id : TimerId}

theorem Starts.append_left (h : Starts first) : Starts (first ++ second) :=
  let ⟨t, now, hmem⟩ := h
  ⟨t, now, List.mem_append_left _ hmem⟩

theorem Starts.append_right (h : Starts second) : Starts (first ++ second) :=
  let ⟨t, now, hmem⟩ := h
  ⟨t, now, List.mem_append_right _ hmem⟩

theorem starts_of_eq_started {t : QueuedTimer α} {now : Nat} : Starts (first ++ [.started t now]) :=
  ⟨t, now, by simp⟩

theorem startsOf_append_iff : StartsOf id (first ++ second) ↔ StartsOf id first ∨ StartsOf id second := by
  constructor
  · rintro ⟨t, now, hmem, hid⟩
    rcases List.mem_append.mp hmem with h | h
    · exact Or.inl ⟨t, now, h, hid⟩
    · exact Or.inr ⟨t, now, h, hid⟩
  · rintro (⟨t, now, hmem, hid⟩ | ⟨t, now, hmem, hid⟩)
    · exact ⟨t, now, List.mem_append_left _ hmem, hid⟩
    · exact ⟨t, now, List.mem_append_right _ hmem, hid⟩

theorem not_startsOf_single {h : Happening α} (hh : ∀ t now, h ≠ .started t now) :
    ¬ StartsOf id [h] := by
  rintro ⟨t, now, hmem, -⟩
  exact hh t now (List.mem_singleton.mp hmem).symm

end Starts

namespace VirtualClock

variable {α : Type}

/-! ## Identifiers that were handed out -/

theorem lastId_le_beat {nests : Prop} {p q : Place α} {h : Happening α} (b : Beat nests p h q) :
    p.state.lastId ≤ q.state.lastId := by
  cases b with
  | schedule => exact Nat.le_succ _
  | cancel | start | abandon => exact Nat.le_refl _
  | reach => simp
  | finish => simp

/-- An identifier that was handed out stays below the next one. -/
theorem issued_of_scheduled {nests : Prop} {p q : Place α} {history : List (Happening α)}
    {id : TimerId} (h : Beats nests p history q) (hid : .scheduled id ∈ history) :
    id.value ≤ q.state.lastId := by
  induction h with
  | refl => exact absurd hid List.not_mem_nil
  | snoc _ b ih =>
      rcases List.mem_append.mp hid with hid | hid
      · exact Nat.le_trans (ih hid) (lastId_le_beat b)
      · rw [List.mem_singleton] at hid
        subst hid
        cases b
        exact Nat.le_refl _

/-! ## Where a callback under way was started -/

/-- The slot is about this callback, which is the innermost. -/
def Noted (u : UnderWay α) (p : Place α) : Prop :=
  ∃ us cancelled, p.suspended = u :: us ∧
    p.state.running = some ⟨u.timer.id, u.timer.kind, cancelled⟩

/-- A callback under way was started in the past; and if the slot is not
about it, then another one was started since. -/
theorem started_of_suspended {nests : Prop} {q : Place α} {history : List (Happening α)}
    (h : Beats nests ⟨.fresh, []⟩ history q) :
    ∀ u ∈ q.suspended, ∃ earlier now since,
      history = earlier ++ .started u.timer now :: since ∧ (Noted u q ∨ Starts since) := by
  induction h with
  | refl => exact fun u hu => absurd hu List.not_mem_nil
  | @snoc q r before h hbefore b ih =>
      have htidy : Tidy q := tidy_fresh.beats hbefore
      -- a callback that stays under way keeps its start; what is left is its slot
      have keep : ∀ u ∈ q.suspended, (Noted u q → Noted u r ∨ Starts [h]) →
          ∃ earlier now since,
            before ++ [h] = earlier ++ .started u.timer now :: since ∧ (Noted u r ∨ Starts since) := by
        intro u hu hnoted
        obtain ⟨earlier, now, since, rfl, hslot⟩ := ih u hu
        refine ⟨earlier, now, since ++ [h], by simp, ?_⟩
        rcases hslot with hslot | hslot
        · exact (hnoted hslot).imp_right Starts.append_right
        · exact Or.inr hslot.append_left
      cases b with
      | schedule => exact fun u hu => keep u hu Or.inl
      | cancel id =>
          refine fun u hu => keep u hu ?_
          rintro ⟨us, cancelled, hus, hr⟩
          refine Or.inl ⟨us, cancelled || (u.timer.id == id && u.timer.kind == .repeating), hus, ?_⟩
          rw [cancel_running, hr]
          rfl
      | @start clock us goal left ran timer _ _ _ =>
          intro u hu
          rcases List.mem_cons.mp hu with rfl | hu
          · exact ⟨before, _, [], rfl, Or.inl ⟨us, false, rfl, rfl⟩⟩
          · exact keep u hu fun _ => Or.inr ⟨timer, _, List.mem_singleton_self _⟩
      | reach =>
          refine fun u hu => keep u hu ?_
          rintro ⟨us, cancelled, hus, hr⟩
          exact Or.inl ⟨us, cancelled, hus, by rw [reach_running]; exact hr⟩
      | @finish clock v us | @abandon clock v us =>
          -- the slot was about the callback that is over
          refine fun u hu => keep u (List.mem_cons_of_mem _ hu) ?_
          rintro ⟨us', cancelled, hus, -⟩
          obtain ⟨rfl, -⟩ := List.cons.inj hus
          exact absurd rfl (htidy.innermost_id v.timer
            (List.mem_append_right _ (List.mem_map_of_mem hu)))

/-! ## After the clear -/

/-- The slot says that this callback's timer is not to come back. -/
def Shut (u : UnderWay α) (p : Place α) : Prop :=
  ∃ us kind, p.suspended = u :: us ∧ p.state.running = some ⟨u.timer.id, kind, true⟩

theorem shut_of_cancel {clock : VirtualClock α} {us : List (UnderWay α)} {u : UnderWay α}
    (hu : u.timer.period.isSome) (h : Noted u ⟨clock, us⟩) :
    Shut u ⟨(clock.cancel u.timer.id).2, us⟩ := by
  obtain ⟨us', cancelled, hus, hr⟩ := h
  refine ⟨us', u.timer.kind, hus, ?_⟩
  obtain ⟨period, hp⟩ := Option.isSome_iff_exists.mp hu
  have hkind : u.timer.kind = .repeating := by simp [QueuedTimer.kind, hp]
  have hr : clock.running = some ⟨u.timer.id, u.timer.kind, cancelled⟩ := hr
  rw [cancel_running, hr, hkind]
  simp

/-- What is left of a timer since it was cleared at `p`: it does not wait,
and a callback of it that is under way will not bring it back, unless it was
not shut in the first place or another callback was started since. -/
structure Quieted (id : TimerId) (p : Place α) (since : List (Happening α)) (q : Place α) : Prop where
  silent : ¬ StartsOf id since
  issued : id.value ≤ q.state.lastId
  gone : ∀ t ∈ q.state.queue, t.id ≠ id
  old : ∀ u ∈ q.suspended, u.timer.id = id → u ∈ p.suspended
  shut : ∀ u ∈ q.suspended, u.timer.id = id → u.timer.period.isSome →
    Shut u q ∨ ¬ Shut u p ∨ Starts since

/-- A callback of the timer returned although it was not shut, or another
callback had been started since. -/
def CameBack (id : TimerId) (p : Place α) (since : List (Happening α)) : Prop :=
  ∃ u ∈ p.suspended, u.timer.id = id ∧ u.timer.period.isSome ∧
    ∃ meanwhile rest, since = meanwhile ++ .returned u.timer :: rest ∧
      ¬ StartsOf id meanwhile ∧ (¬ Shut u p ∨ Starts meanwhile)

theorem CameBack.append {id : TimerId} {p : Place α} {since : List (Happening α)} (h : Happening α) :
    CameBack id p since → CameBack id p (since ++ [h]) := by
  rintro ⟨u, hu, hid, hp, meanwhile, rest, rfl, hsilent, hopen⟩
  exact ⟨u, hu, hid, hp, meanwhile, rest ++ [h], by simp, hsilent, hopen⟩

/-- A callback further out is not shut, so something came between. -/
theorem Quieted.interrupted_of_outer {id : TimerId} {p : Place α} {since : List (Happening α)}
    {clock : VirtualClock α} {v : UnderWay α} {us : List (UnderWay α)}
    (hq : Quieted id p since ⟨clock, v :: us⟩) (htidy : Tidy ⟨clock, v :: us⟩) :
    ∀ u ∈ us, u.timer.id = id → u.timer.period.isSome → ¬ Shut u p ∨ Starts since := by
  intro u hu hid hp
  refine (hq.shut u (List.mem_cons_of_mem _ hu) hid hp).resolve_left ?_
  rintro ⟨us', kind, hus, -⟩
  obtain ⟨rfl, -⟩ := List.cons.inj hus
  exact htidy.innermost_id v.timer (List.mem_append_right _ (List.mem_map_of_mem hu)) rfl

theorem Quieted.beat {nests : Prop} {id : TimerId} {p q r : Place α} {since : List (Happening α)}
    {h : Happening α} (hq : Quieted id p since q) (htidy : Tidy q) (b : Beat nests q h r) :
    Quieted id p (since ++ [h]) r ∨ CameBack id p (since ++ [h]) := by
  have quiet : ¬ StartsOf id [h] → ¬ StartsOf id (since ++ [h]) := fun hh hs =>
    (startsOf_append_iff.mp hs).elim hq.silent hh
  have later : ∀ u : UnderWay α, ¬ Shut u p ∨ Starts since → ¬ Shut u p ∨ Starts (since ++ [h]) :=
    fun u hu => hu.imp_right Starts.append_left
  cases b with
  | @schedule clock us kind callback delay =>
      refine Or.inl ⟨quiet (not_startsOf_single fun _ _ => nofun), Nat.le_succ_of_le hq.issued, ?_,
        hq.old, fun u hu hid hp => (hq.shut u hu hid hp).imp_right (later u)⟩
      intro t ht
      rcases List.mem_cons.mp ht with rfl | ht
      · intro he
        have hle := hq.issued
        rw [← he] at hle
        exact absurd hle (Nat.not_succ_le_self _)
      · exact hq.gone t ht
  | @cancel clock us other =>
      refine Or.inl ⟨quiet (not_startsOf_single fun _ _ => nofun), hq.issued,
        fun t ht => hq.gone t ((mem_cancel_queue other clock).mp ht).1, hq.old, ?_⟩
      intro u hu hid hp
      rcases hq.shut u hu hid hp with ⟨us', kind, hus, hr⟩ | hopen
      · refine Or.inl ⟨us', kind, hus, ?_⟩
        have hr : clock.running = some ⟨u.timer.id, kind, true⟩ := hr
        rw [cancel_running, hr]
        rfl
      · exact Or.inr (later u hopen)
  | @start clock us goal left ran timer hnext _ _ =>
      have hne : timer.id ≠ id := hq.gone timer (next?_spec hnext).1
      refine Or.inl ⟨quiet ?_, hq.issued,
        fun t ht => hq.gone t ((mem_start_queue timer clock).mp ht).1, ?_,
        fun _ _ _ _ => Or.inr (Or.inr starts_of_eq_started)⟩
      · rintro ⟨t, now, hmem, hid⟩
        cases List.mem_singleton.mp hmem
        exact hne hid
      · intro u hu hid
        rcases List.mem_cons.mp hu with rfl | hu
        · exact absurd hid hne
        · exact hq.old u hu hid
  | @reach clock us goal _ _ _ =>
      refine Or.inl ⟨quiet (not_startsOf_single fun _ _ => nofun), by simpa using hq.issued,
        by simpa using hq.gone, hq.old, ?_⟩
      intro u hu hid hp
      rcases hq.shut u hu hid hp with ⟨us', kind, hus, hr⟩ | hopen
      · exact Or.inl ⟨us', kind, hus, by rw [reach_running]; exact hr⟩
      · exact Or.inr (later u hopen)
  | @finish clock v us =>
      have houter := hq.interrupted_of_outer htidy
      rcases finish_cases v.timer clock with ⟨hrest, -⟩ | ⟨period, hp, hcancelled, hqueue, -⟩
      · refine Or.inl ⟨quiet (not_startsOf_single fun _ _ => nofun), by simpa using hq.issued, ?_,
          fun u hu => hq.old u (List.mem_cons_of_mem _ hu),
          fun u hu hid hp => Or.inr (later u (houter u hu hid hp))⟩
        rw [hrest]
        exact hq.gone
      · by_cases hid : v.timer.id = id
        · -- the timer is armed again, so its callback was not shut
          have hv : v ∈ v :: us := List.mem_cons_self
          have hsome : v.timer.period.isSome := by rw [hp]; rfl
          refine Or.inr ⟨v, hq.old v hv hid, hid, hsome, since, [], rfl, hq.silent, ?_⟩
          refine (hq.shut v hv hid hsome).resolve_left ?_
          rintro ⟨us', kind, -, hr⟩
          have hr : clock.running = some ⟨v.timer.id, kind, true⟩ := hr
          simp [wasCancelled, hr] at hcancelled
        · refine Or.inl ⟨quiet (not_startsOf_single fun _ _ => nofun), by simpa using hq.issued, ?_,
            fun u hu => hq.old u (List.mem_cons_of_mem _ hu),
            fun u hu hid hp => Or.inr (later u (houter u hu hid hp))⟩
          intro t ht
          rw [show (clock.finish v.timer).queue = _ from hqueue] at ht
          rcases List.mem_cons.mp ht with rfl | ht
          · exact hid
          · exact hq.gone t ht
  | @abandon clock v us =>
      have houter := hq.interrupted_of_outer htidy
      exact Or.inl ⟨quiet (not_startsOf_single fun _ _ => nofun), hq.issued, hq.gone,
        fun u hu => hq.old u (List.mem_cons_of_mem _ hu),
        fun u hu hid hp => Or.inr (later u (houter u hu hid hp))⟩

/-- From the clear on, either all stays quiet or the timer came back. -/
theorem quieted_or_cameBack {nests : Prop} {id : TimerId} {p q : Place α}
    {since : List (Happening α)} (hp : Tidy p) (hid : id.value ≤ p.state.lastId)
    (hgone : ∀ t ∈ p.state.queue, t.id ≠ id) (h : Beats nests p since q) :
    Quieted id p since q ∨ CameBack id p since := by
  induction h with
  | refl =>
      refine Or.inl ⟨?_, hid, hgone, fun _ hu _ => hu, ?_⟩
      · rintro ⟨_, _, hmem, -⟩
        exact List.not_mem_nil hmem
      · exact fun u _ _ _ => (Classical.em (Shut u p)).imp_right Or.inl
  | snoc hbefore b ih =>
      rcases ih with hq | hback
      · exact hq.beat (hp.beats hbefore) b
      · exact Or.inr (hback.append _)

/-- A cleared timer starts again only if the clear fell into an interrupted
callback of it, and only after that has returned. -/
theorem interrupted_of_started_after {nests : Prop} {q : Place α} {before after : List (Happening α)}
    {id : TimerId} {found : Bool}
    (h : Beats nests ⟨.fresh, []⟩ (before ++ .cleared id found :: after) q)
    (hid : .scheduled id ∈ before) {t : QueuedTimer α} {now : Nat} (ht : .started t now ∈ after)
    (htid : t.id = id) :
    ∃ s rest, s.id = id ∧ s.period.isSome ∧ Interrupted s before after rest ∧
      .started t now ∈ rest := by
  obtain ⟨p, hbefore, hrest⟩ := h.split
  obtain ⟨p', b, hafter⟩ := hrest.cons_inv
  have htidy : Tidy p := tidy_fresh.beats hbefore
  cases b with
  | @cancel clock us =>
      have hgone : ∀ t ∈ (clock.cancel id).2.queue, t.id ≠ id := fun t ht =>
        ((mem_cancel_queue id clock).mp ht).2
      have hissued : id.value ≤ clock.lastId := issued_of_scheduled hbefore hid
      have htidy' : Tidy ⟨(clock.cancel id).2, us⟩ := htidy.beat (Beat.cancel id : Beat nests _ _ _)
      rcases quieted_or_cameBack htidy' hissued hgone hafter with hq | hback
      · exact absurd ⟨t, now, ht, htid⟩ hq.silent
      · obtain ⟨u, hu, huid, hperiod, meanwhile, rest, rfl, hsilent, hopen⟩ := hback
        obtain ⟨earlier, began, since, rfl, hslot⟩ := started_of_suspended hbefore u hu
        refine ⟨u.timer, rest, huid, hperiod, ⟨earlier, began, since, meanwhile, rfl, rfl, ?_⟩, ?_⟩
        · -- where nothing had come between before the clear, the clear was noted
          rcases hopen with hshut | hstarts
          · rcases hslot with hnoted | hstarts
            · exact absurd (huid ▸ shut_of_cancel hperiod hnoted) hshut
            · exact hstarts.append_left
          · exact hstarts.append_right
        · rcases List.mem_append.mp ht with ht | ht
          · exact absurd ⟨t, now, ht, htid⟩ hsilent
          · rcases List.mem_cons.mp ht with he | ht
            · cases he
            · exact ht

/-! ## From the start of an interrupted callback on -/

/-- Since `t` was started it has kept its place to itself; and once another
callback was started, `t` is not the one that the slot is about. -/
structure Unnoted (t : QueuedTimer α) (since : List (Happening α)) (q : Place α) : Prop where
  placed : t.order ≤ q.state.lastOrder
  own : ∀ s ∈ q.state.queue, s.order ≠ t.order
  empty : Starts since → ∀ u us, q.suspended = u :: us → u.timer = t → q.state.running = none

theorem Unnoted.beat {nests : Prop} {t : QueuedTimer α} {q r : Place α}
    {since : List (Happening α)} {h : Happening α} (hq : Unnoted t since q) (b : Beat nests q h r) :
    Unnoted t (since ++ [h]) r := by
  have earlier : (∀ s now, h ≠ .started s now) → Starts (since ++ [h]) → Starts since := by
    rintro hh ⟨s, now, hmem⟩
    rcases List.mem_append.mp hmem with hmem | hmem
    · exact ⟨s, now, hmem⟩
    · exact absurd (List.mem_singleton.mp hmem).symm (hh s now)
  have hplaced := hq.placed
  cases b with
  | @schedule clock us kind callback delay =>
      refine ⟨Nat.le_succ_of_le hplaced, ?_, fun hs => hq.empty (earlier (fun _ _ => nofun) hs)⟩
      intro s hs
      rcases List.mem_cons.mp hs with rfl | hs
      · exact Nat.ne_of_gt (Nat.lt_succ_of_le hplaced)
      · exact hq.own s hs
  | @cancel clock us other =>
      refine ⟨hplaced, fun s hs => hq.own s ((mem_cancel_queue other clock).mp hs).1, ?_⟩
      intro hs u us' hus hu
      have hr : clock.running = none := hq.empty (earlier (fun _ _ => nofun) hs) u us' hus hu
      rw [cancel_running, hr]
      rfl
  | @start clock us goal left ran timer hnext _ _ =>
      refine ⟨hplaced, fun s hs => hq.own s ((mem_start_queue timer clock).mp hs).1, ?_⟩
      intro _ u us' hus hu
      obtain ⟨rfl, -⟩ := List.cons.inj hus
      exact absurd (congrArg (·.order) hu) (hq.own timer (next?_spec hnext).1)
  | @reach clock us goal _ _ _ =>
      refine ⟨by simpa using hplaced, by simpa using hq.own, ?_⟩
      intro hs u us' hus hu
      rw [reach_running]
      exact hq.empty (earlier (fun _ _ => nofun) hs) u us' hus hu
  | @finish clock v us =>
      rcases finish_cases v.timer clock with ⟨hrest, -⟩ | ⟨period, -, -, hqueue, horder⟩
      · rw [hrest]
        exact ⟨hplaced, hq.own, fun _ _ _ _ _ => rfl⟩
      · refine ⟨?_, ?_, fun _ _ _ _ _ => finish_running _ _⟩
        · rw [show (clock.finish v.timer).lastOrder = _ from horder]
          exact Nat.le_succ_of_le hplaced
        · intro s hs
          rw [show (clock.finish v.timer).queue = _ from hqueue] at hs
          rcases List.mem_cons.mp hs with rfl | hs
          · exact Nat.ne_of_gt (Nat.lt_succ_of_le hplaced)
          · exact hq.own s hs
  | abandon => exact ⟨hplaced, hq.own, fun _ _ _ _ _ => rfl⟩

theorem Unnoted.beats {nests : Prop} {t : QueuedTimer α} {p q : Place α}
    {since : List (Happening α)} (hp : Unnoted t [] p) (h : Beats nests p since q) :
    Unnoted t since q := by
  induction h with
  | refl => exact hp
  | snoc _ b ih => exact ih.beat b

/-- The clock holds a repeating timer, and nothing says that it is not to
come back. -/
structure Live (id : TimerId) (q : Place α) : Prop where
  held : ∃ t ∈ held q, t.id = id ∧ t.period.isSome
  unmarked : ∀ r, q.state.running = some r → r.id = id → r.cancelled = false

theorem Live.beat {nests : Prop} {id : TimerId} {q r : Place α} {h : Happening α} (hq : Live id q)
    (htidy : Tidy q) (b : Beat nests q h r) (hclear : ∀ found, h ≠ .cleared id found)
    (hthrow : ∀ t, t.id = id → h ≠ .threw t) : Live id r := by
  obtain ⟨⟨t, ht, hid, hp⟩, hmark⟩ := hq
  cases b with
  | schedule => exact ⟨⟨t, List.mem_cons_of_mem _ ht, hid, hp⟩, hmark⟩
  | @cancel clock us other =>
      have hother : other ≠ id := by
        rintro rfl
        exact hclear _ rfl
      refine ⟨⟨t, ?_, hid, hp⟩, ?_⟩
      · rw [mem_held] at ht ⊢
        exact ht.imp_left fun ht => (mem_cancel_queue other clock).mpr ⟨ht, by rw [hid]; exact hother.symm⟩
      · intro r hr hrid
        rw [cancel_running, Option.map_eq_some_iff] at hr
        obtain ⟨r, hr, rfl⟩ := hr
        have hne : (r.id == other) = false := beq_false_of_ne (fun he => hother (he ▸ hrid))
        simpa [hne] using hmark r hr hrid
  | @start clock us goal left ran timer hnext _ _ =>
      have hn : (clock.queue.map (·.order)).Nodup :=
        htidy.orders.sublist ((List.sublist_append_left _ _).map _)
      have hperm := @start_perm α clock us ⟨goal, left, ran, timer⟩ (next?_spec hnext).1 hn
      refine ⟨⟨t, hperm.symm.subset ht, hid, hp⟩, ?_⟩
      rintro r hr -
      cases hr
      rfl
  | @reach clock us goal _ _ _ =>
      exact ⟨⟨t, by simpa [VirtualClock.held] using ht, hid, hp⟩, by simpa using hmark⟩
  | @finish clock v us =>
      refine ⟨?_, fun r hr => by simp at hr⟩
      rw [VirtualClock.held, List.map_cons] at ht
      rcases List.mem_cons.mp (List.perm_middle.subset ht) with rfl | ht
      · -- its own callback returned, and nobody had cancelled it
        have hcancelled : clock.wasCancelled = false := by
          unfold wasCancelled
          cases hr : clock.running with
          | none => rfl
          | some r =>
              obtain ⟨u, us', hus, hrid, -⟩ := htidy.slot r hr
              obtain ⟨rfl, -⟩ := List.cons.inj hus
              exact hmark r hr (hrid.trans hid)
        rcases finish_cases v.timer clock with ⟨-, hnone | hc⟩ | ⟨period, -, -, hqueue, -⟩
        · rw [hnone] at hp; cases hp
        · rw [hcancelled] at hc; cases hc
        · refine ⟨clock.rearmed v.timer period, mem_held.mpr (Or.inl ?_), hid, rfl⟩
          rw [show (clock.finish v.timer).queue = _ from hqueue]
          exact List.mem_cons_self
      · refine ⟨t, ?_, hid, hp⟩
        rcases finish_cases v.timer clock with ⟨hrest, -⟩ | ⟨period, -, -, hqueue, -⟩
        · rw [hrest]; exact ht
        · rw [VirtualClock.held, hqueue]
          exact List.mem_cons_of_mem _ ht
  | @abandon clock v us =>
      refine ⟨⟨t, ?_, hid, hp⟩, fun r hr => by cases hr⟩
      rw [VirtualClock.held, List.map_cons] at ht
      rcases List.mem_cons.mp (List.perm_middle.subset ht) with rfl | ht
      · exact absurd rfl (hthrow v.timer hid)
      · exact ht

/-- Only a clear or a throw of its own ends a repeating timer. -/
theorem Live.beats {nests : Prop} {id : TimerId} {p q : Place α} {history : List (Happening α)}
    (hp : Live id p) (htidy : Tidy p) (h : Beats nests p history q)
    (hclear : ∀ found, .cleared id found ∉ history)
    (hthrow : ∀ t, t.id = id → .threw t ∉ history) : Live id q := by
  induction h with
  | refl => exact hp
  | @snoc q r before h hbefore b ih =>
      refine (ih (fun found hmem => hclear found (List.mem_append_left _ hmem))
        fun t ht hmem => hthrow t ht (List.mem_append_left _ hmem)).beat (htidy.beats hbefore) b ?_ ?_
      · rintro found rfl
        exact hclear found (List.mem_append_right _ (List.mem_singleton_self _))
      · rintro t ht rfl
        exact hthrow t ht (List.mem_append_right _ (List.mem_singleton_self _))

/-- The return of an interrupted callback arms its timer again, and it goes
on from there until it is cleared again or throws. -/
theorem live_of_interrupted {nests : Prop} {q : Place α} {before after rest : List (Happening α)}
    {id : TimerId} {found : Bool} {s : QueuedTimer α}
    (h : Beats nests ⟨.fresh, []⟩ (before ++ .cleared id found :: after) q)
    (hs : Interrupted s before after rest) (hid : s.id = id) (hperiod : s.period.isSome)
    (hclear : ∀ found, .cleared id found ∉ rest) (hthrow : ∀ t, t.id = id → .threw t ∉ rest) :
    Live id q := by
  obtain ⟨earlier, now, since, meanwhile, rfl, rfl, hstarts⟩ := hs
  -- cut the history at the start and at the return
  have hcut : Beats nests ⟨.fresh, []⟩ (earlier ++ .started s now ::
      ((since ++ .cleared id found :: meanwhile) ++ .returned s :: rest)) q := by
    simpa using h
  obtain ⟨p₀, hearlier, hrest⟩ := hcut.split
  obtain ⟨p₁, hstart, hrest⟩ := hrest.cons_inv
  obtain ⟨p₂, hbetween, hrest⟩ := hrest.split
  obtain ⟨p₃, hreturn, hrest⟩ := hrest.cons_inv
  have htidy₁ : Tidy p₁ := (tidy_fresh.beats hearlier).beat hstart
  have htidy₃ : Tidy p₃ := (htidy₁.beats hbetween).beat hreturn
  have hunnoted : Unnoted s [] p₁ := by
    cases hstart with
    | @start clock us goal left ran timer hnext _ _ =>
        have hmem : s ∈ held ⟨clock, us⟩ := mem_held.mpr (Or.inl (next?_spec hnext).1)
        refine ⟨(tidy_fresh.beats hearlier).placed s hmem,
          fun t ht => ((mem_start_queue s clock).mp ht).2, ?_⟩
        rintro ⟨_, _, hnil⟩
        exact absurd hnil List.not_mem_nil
  have hlive : Live id p₃ := by
    cases hreturn with
    | @finish clock u us =>
        have hbegan : Starts (since ++ .cleared id found :: meanwhile) := by
          obtain ⟨t, began, hmem⟩ := hstarts
          rcases List.mem_append.mp hmem with hmem | hmem
          · exact ⟨t, began, List.mem_append_left _ hmem⟩
          · exact ⟨t, began, List.mem_append_right _ (List.mem_cons_of_mem _ hmem)⟩
        have hrunning : clock.running = none := (hunnoted.beats hbetween).empty hbegan u us rfl rfl
        have hcancelled : clock.wasCancelled = false := by simp [wasCancelled, hrunning]
        refine ⟨?_, fun r hr => by simp at hr⟩
        rcases finish_cases u.timer clock with ⟨-, hnone | hc⟩ | ⟨period, -, -, hqueue, -⟩
        · rw [hnone] at hperiod; cases hperiod
        · rw [hcancelled] at hc; cases hc
        · refine ⟨clock.rearmed u.timer period, mem_held.mpr (Or.inl ?_), hid, rfl⟩
          rw [show (clock.finish u.timer).queue = _ from hqueue]
          exact List.mem_cons_self
  exact hlive.beats htidy₃ hrest hclear hthrow

end VirtualClock

/-! ## Whole runs -/

namespace ClockSession

/-- **Cancelling is final, with one exception.**  However the callbacks of a
page program nest their drains: a callback of a timer is started after a
clear of it only if the timer repeats, the clear fell into a callback of it
that was interrupted by another one, and that callback has returned.  And
then the timer is there again: from the return on it waits or runs, until it
is cleared again or throws. -/
theorem clear_final_unless_interrupted (limit : Nat) (globals : Globals)
    (actions : List (Action TimerId)) (n : Nat) {id : TimerId} {found : Bool}
    {before after : List (Happening (Handler TimerId))}
    (hhistory : (fresh globals actions).history limit n = before ++ .cleared id found :: after)
    (hid : .scheduled id ∈ before) :
    (∀ t now, .started t now ∈ after → t.id = id →
      ∃ s rest, s.id = id ∧ s.period.isSome ∧ Interrupted s before after rest ∧
        .started t now ∈ rest) ∧
    (∀ s rest, s.id = id → s.period.isSome → Interrupted s before after rest →
      (∀ found, .cleared id found ∉ rest) → (∀ t, t.id = id → .threw t ∉ rest) →
      ∃ t, t.id = id ∧ (t ∈ ((fresh globals actions).after limit n).clock.queue ∨
        t ∈ ((fresh globals actions).after limit n).underWay)) := by
  have h := beats_after limit globals actions n (Or.inr trivial)
  rw [hhistory] at h
  refine ⟨fun t now ht htid => VirtualClock.interrupted_of_started_after h hid ht htid, ?_⟩
  intro s rest hs hperiod hinterrupted hclear hthrow
  obtain ⟨⟨t, ht, htid, -⟩, -⟩ :=
    VirtualClock.live_of_interrupted h hinterrupted hs hperiod hclear hthrow
  refine ⟨t, htid, (VirtualClock.mem_held.mp ht).imp_right ?_⟩
  rintro ⟨u, hu, rfl⟩
  obtain ⟨frame, hframe, rfl⟩ := List.mem_map.mp hu
  exact List.mem_map.mpr ⟨frame, hframe, rfl⟩

/-! ### A clear that is forgotten

The callback clears its own timer, is told that it did, and then drains. -/

/-- What the first firing of the timer does; later ones do nothing. -/
def hastyTick : Handler TimerId :=
  .mk false [[.clear .page .repeating .self, .schedule .page .once (.ofMillis 0) none .idle,
    .drain .runDue]] []

def hastyActions : List (Action TimerId) :=
  [.schedule .page .repeating (.ofMillis 10) none hastyTick, .drain (.advance (.ofMillis 10)),
    .drain (.advance (.ofMillis 10))]

/-- The hasty timer on its first and on its second turn. -/
def hastyTimer (turn : Nat) : QueuedTimer (Handler TimerId) :=
  ⟨⟨1⟩, 10 * (turn + 1), 2 * turn + 1, some 10, hastyTick, turn⟩

/-- The timer that it lets run. -/
def hastyGuest : QueuedTimer (Handler TimerId) := ⟨⟨2⟩, 10, 2, none, .idle, 0⟩

theorem hasty_history :
    (fresh .empty hastyActions).history 10000 15 =
      [.scheduled ⟨1⟩, .started (hastyTimer 0) 10] ++ .cleared ⟨1⟩ true ::
        [.scheduled ⟨2⟩, .started hastyGuest 10, .returned hastyGuest, .reached 10,
          .returned (hastyTimer 0), .reached 10, .started (hastyTimer 1) 20,
          .returned (hastyTimer 1), .reached 20] := rfl

/-- The clear answered that it stopped the timer, and the timer fires again. -/
theorem clear_not_final :
    ∃ before after t now,
      (fresh .empty hastyActions).history 10000 15 = before ++ .cleared ⟨1⟩ true :: after ∧
        .scheduled ⟨1⟩ ∈ before ∧ .started t now ∈ after ∧ t.id = ⟨1⟩ :=
  ⟨_, _, hastyTimer 1, 20, hasty_history, by simp, by simp, rfl⟩

theorem hasty_clear_interrupted :
    ∃ before after s rest,
      (fresh .empty hastyActions).history 10000 15 = before ++ .cleared ⟨1⟩ true :: after ∧
        .scheduled ⟨1⟩ ∈ before ∧ s.id = ⟨1⟩ ∧ s.period.isSome ∧ Interrupted s before after rest ∧
        .started (hastyTimer 1) 20 ∈ rest :=
  let ⟨s, rest, h⟩ := (clear_final_unless_interrupted 10000 .empty hastyActions 15 hasty_history
    (by simp)).1 (hastyTimer 1) 20 (by simp) rfl
  ⟨_, _, s, rest, hasty_history, by simp, h⟩

end ClockSession

end PageTimers
