/-
# One timer, one identifier, one place

At every moment the clock holds each timer once: either it waits in the
queue, or its callback is under way.  So identifiers and places in the order
are distinct across both, and the slot of the running timer, if it is
filled, is about the innermost callback.

`Tidy` says all of this of a place, `Tidy.beat` that every beat keeps it.
What makes it work is that each beat changes the timers `held` in a simple
way, up to the order of the list: one timer more, under a new identifier; one
timer less; or one timer for another of the same identifier.
-/
import PageTimers.Proofs.Clock.History

namespace PageTimers

namespace VirtualClock

variable {α : Type}

/-- The timers that the clock holds: those that wait, and those whose
callbacks are under way. -/
def held (p : Place α) : List (QueuedTimer α) := p.state.queue ++ p.suspended.map (·.timer)

theorem mem_held {p : Place α} {t : QueuedTimer α} :
    t ∈ held p ↔ t ∈ p.state.queue ∨ ∃ u ∈ p.suspended, u.timer = t := by
  simp [held]

/-- Taking a timer out of a queue of distinct places takes out that timer
only. -/
theorem perm_filter_order {t : QueuedTimer α} {queue : List (QueuedTimer α)} (ht : t ∈ queue)
    (hn : (queue.map (·.order)).Nodup) :
    queue.Perm (t :: queue.filter (·.order != t.order)) := by
  induction queue with
  | nil => exact absurd ht List.not_mem_nil
  | cons s rest ih =>
      rw [List.map_cons, List.nodup_cons] at hn
      rcases List.mem_cons.mp ht with rfl | ht
      · have hall : ∀ s ∈ rest, s.order ≠ t.order := fun s hs he =>
          hn.1 (he ▸ List.mem_map_of_mem hs)
        have hrest : rest.filter (·.order != t.order) = rest :=
          List.filter_eq_self.mpr fun s hs => by simpa using hall s hs
        simp [hrest]
      · have hne : s.order ≠ t.order := fun he => hn.1 (he ▸ List.mem_map_of_mem ht)
        rw [List.filter_cons_of_pos (by simpa using hne)]
        exact ((ih ht hn.2).cons s).trans (.swap t s _)

/-- Where identifiers are distinct, one timer has its own. -/
theorem filter_id_eq_singleton {t : QueuedTimer α} {queue : List (QueuedTimer α)} (ht : t ∈ queue)
    (hn : (queue.map (·.id)).Nodup) : queue.filter (·.id == t.id) = [t] := by
  induction queue with
  | nil => exact absurd ht List.not_mem_nil
  | cons s rest ih =>
      rw [List.map_cons, List.nodup_cons] at hn
      rcases List.mem_cons.mp ht with rfl | ht
      · have hrest : rest.filter (·.id == t.id) = [] :=
          List.filter_eq_nil_iff.mpr fun s hs he =>
            hn.1 (beq_iff_eq.mp he ▸ List.mem_map_of_mem (f := (·.id)) hs)
        simp [hrest]
      · have hne : s.id ≠ t.id := fun he => hn.1 (he ▸ List.mem_map_of_mem ht)
        rw [List.filter_cons_of_neg (by simpa using hne)]
        exact ih ht hn.2

theorem start_perm {clock : VirtualClock α} {us : List (UnderWay α)} {u : UnderWay α}
    (ht : u.timer ∈ clock.queue) (hn : (clock.queue.map (·.order)).Nodup) :
    (held ⟨clock.start u.timer, u :: us⟩).Perm (held ⟨clock, us⟩) := by
  show ((clock.start u.timer).queue ++ u.timer :: us.map (·.timer)).Perm
    (clock.queue ++ us.map (·.timer))
  exact List.perm_middle.trans ((perm_filter_order ht hn).symm.append_right _)

/-- When a callback is over, the others are still there. -/
theorem over_sublist {clock : VirtualClock α} {u : UnderWay α} {us : List (UnderWay α)} :
    (clock.queue ++ us.map (·.timer)).Sublist (held ⟨clock, u :: us⟩) :=
  List.Sublist.append_left (List.sublist_cons_self _ _) _

/-- Every timer is held once, under an identifier that was handed out. -/
structure Tidy (p : Place α) : Prop where
  ids : ((held p).map (·.id)).Nodup
  issued : ∀ t ∈ held p, 0 < t.id.value ∧ t.id.value ≤ p.state.lastId
  orders : ((held p).map (·.order)).Nodup
  placed : ∀ t ∈ held p, t.order ≤ p.state.lastOrder
  /-- What runs is the innermost callback. -/
  slot : ∀ r, p.state.running = some r →
    ∃ u us, p.suspended = u :: us ∧ r.id = u.timer.id ∧ r.kind = u.timer.kind

theorem tidy_fresh : Tidy (⟨.fresh, []⟩ : Place α) where
  ids := List.nodup_nil
  issued _ h := absurd h List.not_mem_nil
  orders := List.nodup_nil
  placed _ h := absurd h List.not_mem_nil
  slot _ h := by cases h

namespace Tidy

variable {p q : Place α} {timers : List (QueuedTimer α)}

/-- Fewer timers are no less tidy. -/
theorem of_sublist (hp : Tidy p) (hperm : (held q).Perm timers) (hsub : timers.Sublist (held p))
    (hid : p.state.lastId = q.state.lastId) (horder : p.state.lastOrder = q.state.lastOrder)
    (hslot : ∀ r, q.state.running = some r →
      ∃ u us, q.suspended = u :: us ∧ r.id = u.timer.id ∧ r.kind = u.timer.kind) : Tidy q where
  ids := (hperm.map _).nodup_iff.mpr (hp.ids.sublist (hsub.map _))
  issued t ht := hid ▸ hp.issued t (hsub.subset (hperm.subset ht))
  orders := (hperm.map _).nodup_iff.mpr (hp.orders.sublist (hsub.map _))
  placed t ht := horder ▸ hp.placed t (hsub.subset (hperm.subset ht))
  slot := hslot

/-- One timer more, whose identifier and place are its own. -/
theorem of_cons {t : QueuedTimer α} (hp : Tidy p) (hheld : held q = t :: timers)
    (hsub : timers.Sublist (held p)) (hid : ∀ s ∈ timers, s.id ≠ t.id)
    (hissued : 0 < t.id.value ∧ t.id.value ≤ q.state.lastId)
    (hlastId : p.state.lastId ≤ q.state.lastId) (horder : t.order = p.state.lastOrder + 1)
    (hlastOrder : q.state.lastOrder = p.state.lastOrder + 1)
    (hslot : ∀ r, q.state.running = some r →
      ∃ u us, q.suspended = u :: us ∧ r.id = u.timer.id ∧ r.kind = u.timer.kind) : Tidy q where
  ids := by
    rw [hheld, List.map_cons, List.nodup_cons]
    refine ⟨fun hmem => ?_, hp.ids.sublist (hsub.map _)⟩
    obtain ⟨s, hs, he⟩ := List.mem_map.mp hmem
    exact hid s hs he
  issued s hs := by
    rw [hheld] at hs
    rcases List.mem_cons.mp hs with rfl | hs
    · exact hissued
    · exact (hp.issued s (hsub.subset hs)).imp_right fun h => Nat.le_trans h hlastId
  orders := by
    rw [hheld, List.map_cons, List.nodup_cons]
    refine ⟨fun hmem => ?_, hp.orders.sublist (hsub.map _)⟩
    obtain ⟨s, hs, he⟩ := List.mem_map.mp hmem
    have hle := hp.placed s (hsub.subset hs)
    omega
  placed s hs := by
    rw [hheld] at hs
    rcases List.mem_cons.mp hs with rfl | hs
    · omega
    · have hle := hp.placed s (hsub.subset hs)
      omega
  slot := hslot

/-- The identifier of the innermost callback is no other timer's. -/
theorem innermost_id {clock : VirtualClock α} {u : UnderWay α} {us : List (UnderWay α)}
    (hp : Tidy ⟨clock, u :: us⟩) :
    ∀ s ∈ clock.queue ++ us.map (·.timer), s.id ≠ u.timer.id := by
  have hids := hp.ids
  rw [held, List.map_cons, (List.perm_middle.map _).nodup_iff, List.map_cons,
    List.nodup_cons] at hids
  exact fun s hs he => hids.1 (he ▸ List.mem_map_of_mem hs)

/-- Every beat keeps the clock tidy. -/
theorem beat {nests : Prop} {h : Happening α} (hp : Tidy p) (b : Beat nests p h q) : Tidy q := by
  cases b with
  | @schedule clock us kind callback delay =>
      refine hp.of_cons rfl (.refl _) ?_ ⟨Nat.succ_pos _, Nat.le_refl _⟩ (Nat.le_succ _) rfl rfl
        hp.slot
      intro s hs he
      have hle := (hp.issued s hs).2
      rw [he] at hle
      exact absurd hle (Nat.not_succ_le_self _)
  | @cancel clock us id =>
      refine hp.of_sublist (.refl _) (List.filter_sublist.append_right _) rfl rfl ?_
      intro r hr
      rw [cancel_running, Option.map_eq_some_iff] at hr
      obtain ⟨r, hr, rfl⟩ := hr
      exact hp.slot r hr
  | @start clock us goal left ran timer hnext _ _ =>
      have hn : (clock.queue.map (·.order)).Nodup :=
        hp.orders.sublist ((List.sublist_append_left _ _).map _)
      have hperm := @start_perm α clock us ⟨goal, left, ran, timer⟩ (next?_spec hnext).1 hn
      refine hp.of_sublist hperm (.refl _) rfl rfl ?_
      rintro r hr
      cases hr
      exact ⟨_, us, rfl, rfl, rfl⟩
  | @reach clock us goal _ _ _ =>
      refine hp.of_sublist (.refl _) ?_ (by simp) (by simp) (by simpa using hp.slot)
      simp [held]
  | @finish clock u us =>
      rcases finish_cases u.timer clock with ⟨hrest, -⟩ | ⟨period, -, -, hqueue, horder⟩
      · rw [hrest]
        exact hp.of_sublist (.refl _) over_sublist rfl rfl (fun r hr => by cases hr)
      · refine hp.of_cons (t := clock.rearmed u.timer period) ?_ over_sublist hp.innermost_id ?_
          (by simp) rfl horder (fun r hr => by simp at hr)
        · rw [held, hqueue, List.cons_append]
        · simpa [rearmed] using hp.issued u.timer (mem_held.mpr (Or.inr ⟨u, List.mem_cons_self, rfl⟩))
  | @abandon clock u us =>
      exact hp.of_sublist (.refl _) over_sublist rfl rfl (fun r hr => by cases hr)

theorem beats {nests : Prop} {history : List (Happening α)} (hp : Tidy p)
    (h : Beats nests p history q) : Tidy q :=
  h.invariant (fun _ _ _ hp b => hp.beat b) hp

end Tidy

end VirtualClock

end PageTimers
