/-
# Which timer a drain takes does not depend on its deadline

A drain takes the timer that fires first among those due by its deadline.
A timer that is due by a deadline precedes every one that is not, so the
deadline decides only whether a timer is taken, never which one:

    next? early = some t   →   next? late = some t

(`next?_of_sooner`).  This holds of any queue, also of one in which two timers
share due time and place: the choice among equals follows the order of the
list, and leaving out timers keeps that order.

Where places are distinct the timer taken is the head of `pending`.
-/
import Mathlib.Data.List.Nodup
import PageTimers.Proofs.Clock.Queue

namespace PageTimers

namespace QueuedTimer

variable {α : Type}

theorem earlier_of_precedes {s t : QueuedTimer α} (h : s.precedes t = true) : s.earlier t = s :=
  if_pos h

theorem earlier_of_not_precedes {s t : QueuedTimer α} (h : ¬ s.precedes t = true) :
    s.earlier t = t :=
  if_neg h

theorem earlier_assoc (s t u : QueuedTimer α) :
    (s.earlier t).earlier u = s.earlier (t.earlier u) := by
  by_cases hst : s.precedes t = true <;> by_cases htu : t.precedes u = true
  · rw [earlier_of_precedes hst, earlier_of_precedes htu, earlier_of_precedes hst,
      earlier_of_precedes (precedes_trans hst htu)]
  · rw [earlier_of_precedes hst, earlier_of_not_precedes htu]
  · rw [earlier_of_not_precedes hst, earlier_of_precedes htu, earlier_of_not_precedes hst]
  · have hut : u.precedes t = true := precedes_of_not (by simpa using htu)
    have hsu : ¬ s.precedes u = true := fun h => hst (precedes_trans h hut)
    rw [earlier_of_not_precedes hst, earlier_of_not_precedes htu, earlier_of_not_precedes hsu]

instance : Std.Associative (earlier (α := α)) := ⟨earlier_assoc⟩

theorem earliest?_cons (s : QueuedTimer α) (rest : List (QueuedTimer α)) :
    earliest? (s :: rest) = some ((earliest? rest).elim s s.earlier) := by
  cases rest with
  | nil => rfl
  | cons t rest =>
      show some ((t :: rest).foldl earlier s) = some (s.earlier (rest.foldl earlier t))
      rw [List.foldl_cons, List.foldl_assoc]

/-- Leaving out timers that fire later than all that stay does not change
which one fires first. -/
theorem earliest?_of_filter {p : QueuedTimer α → Bool}
    (hp : ∀ s t : QueuedTimer α, s.precedes t = true → p t = true → p s = true)
    {timers : List (QueuedTimer α)} {t : QueuedTimer α}
    (h : earliest? (timers.filter p) = some t) : earliest? timers = some t := by
  induction timers generalizing t with
  | nil => exact h
  | cons s rest ih =>
      rw [earliest?_cons]
      by_cases hs : p s = true
      · rw [List.filter_cons_of_pos hs, earliest?_cons] at h
        cases hrest : earliest? (rest.filter p) with
        | some r => rwa [hrest, ← ih hrest] at h
        | none =>
            rw [hrest] at h
            cases h
            -- whatever fires first among the rest was left out, so `s` precedes it
            cases hall : earliest? rest with
            | none => rfl
            | some r =>
                have hr : ¬ p r = true :=
                  List.filter_eq_nil_iff.mp (earliest?_eq_none_iff.mp hrest) r (earliest?_spec hall).1
                have hsr : s.precedes r = true := by
                  by_contra hsr
                  exact hr (hp r s (precedes_of_not (by simpa using hsr)) hs)
                exact congrArg some (earlier_of_precedes hsr)
      · rw [List.filter_cons_of_neg hs] at h
        have ht : p t = true := (List.mem_filter.mp (earliest?_spec h).1).2
        have hst : ¬ s.precedes t = true := fun hst => hs (hp s t hst ht)
        rw [ih h]
        exact congrArg some (earlier_of_not_precedes hst)

theorem isDue_of_precedes {deadline : Option Nat} {s t : QueuedTimer α}
    (hst : s.precedes t = true) (ht : t.isDue deadline = true) : s.isDue deadline = true := by
  cases deadline with
  | none => rfl
  | some limit =>
      rw [precedes_iff] at hst
      simp only [isDue, decide_eq_true_eq] at ht ⊢
      omega

end QueuedTimer

namespace VirtualClock

variable {α : Type} {clock : VirtualClock α} {deadline later : Option Nat} {t : QueuedTimer α}

/-- A deadline that lets more timers through takes the same one first. -/
theorem next?_of_sooner
    (hlater : ∀ s : QueuedTimer α, s.isDue deadline = true → s.isDue later = true)
    (h : clock.next? deadline = some t) : clock.next? later = some t := by
  have hfilter : (clock.queue.filter (·.isDue later)).filter (·.isDue deadline) =
      clock.queue.filter (·.isDue deadline) := by
    rw [List.filter_filter]
    refine List.filter_congr fun s _ => ?_
    cases hs : s.isDue deadline with
    | false => rfl
    | true => rw [hlater s hs]; rfl
  refine QueuedTimer.earliest?_of_filter (fun _ _ => QueuedTimer.isDue_of_precedes)
    (p := (·.isDue deadline)) ?_
  rw [hfilter]
  exact h

theorem next?_of_le {sooner limit : Nat} (hle : sooner ≤ limit)
    (h : clock.next? (some sooner) = some t) : clock.next? (some limit) = some t := by
  refine next?_of_sooner (fun s hs => ?_) h
  simp only [QueuedTimer.isDue, decide_eq_true_eq] at hs ⊢
  exact Nat.le_trans hs hle

theorem sorted_pending (clock : VirtualClock α) :
    clock.pending.Pairwise fun s t => s.precedes t = true := by
  have htotal : ∀ s t : QueuedTimer α, (s.precedes t || t.precedes s) = true := by
    intro s t
    rw [Bool.or_eq_true]
    by_cases h : s.precedes t = true
    · exact Or.inl h
    · exact Or.inr (QueuedTimer.precedes_of_not (by simpa using h))
  have htrans : ∀ s t u : QueuedTimer α, s.precedes t = true → t.precedes u = true →
      s.precedes u = true := fun _ _ _ => QueuedTimer.precedes_trans
  exact List.pairwise_mergeSort htrans htotal clock.queue

/-- The timer that a drain takes is the first of those that wait. -/
theorem head?_pending (horders : (clock.queue.map (·.order)).Nodup)
    (h : clock.next? deadline = some t) : clock.pending.head? = some t := by
  have ht : t ∈ clock.pending := List.mem_mergeSort.mpr (next?_spec h).1
  obtain ⟨first, rest, hpending⟩ := List.exists_cons_of_ne_nil (List.ne_nil_of_mem ht)
  have hfirst : first ∈ clock.queue := by
    have hmem : first ∈ clock.pending := by
      rw [hpending]
      exact List.mem_cons_self
    exact List.mem_mergeSort.mp hmem
  have hle : first.precedes t = true := by
    have hsorted := clock.sorted_pending
    rw [hpending] at hsorted ht
    rcases List.mem_cons.mp ht with rfl | ht
    · exact QueuedTimer.precedes_refl t
    · exact (List.pairwise_cons.mp hsorted).1 t ht
  have horder : first.order = t.order := by
    have hge := next?_precedes h first hfirst
    rw [QueuedTimer.precedes_iff] at hle hge
    omega
  rw [hpending, List.head?_cons, Option.some.injEq]
  exact List.inj_on_of_nodup_map horders hfirst (next?_spec h).1 horder

end VirtualClock

end PageTimers
