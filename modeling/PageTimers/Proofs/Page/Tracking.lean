/-
# What the interceptor makes of a step

The set of outstanding timers changes in two ways only: it appears, empty,
when the interceptor is installed; and it follows the answers to the requests
that the interceptor sees.  Whatever else a program and its provider do
leaves it alone, so a statement about the set is a statement about those
answers.
-/
import PageTimers.Proofs.Program.Contact

namespace PageTimers

/-! ## The set -/

namespace Outstanding

variable {ι : Type} [DecidableEq ι] {set : Outstanding ι} {id other : ι}

@[simp] theorem mem_insert : other ∈ (set.insert id).ids ↔ other = id ∨ other ∈ set.ids := by
  unfold insert
  split
  · next h =>
    refine ⟨Or.inr, ?_⟩
    rintro (rfl | ho)
    · exact h
    · exact ho
  · exact List.mem_cons

@[simp] theorem mem_erase : other ∈ (set.erase id).ids ↔ other ≠ id ∧ other ∈ set.ids :=
  set.nodup.mem_erase_iff

omit [DecidableEq ι] in
theorem isEmpty_iff : set.isEmpty = true ↔ set.ids = [] := List.isEmpty_iff

end Outstanding

namespace Page

variable {ι : Type} {page : Page ι} {id other : ι} {kind : TimerKind} {found : Bool}

/-- The interceptor holds the timer to be outstanding. -/
def Tracks (page : Page ι) (id : ι) : Prop :=
  ∃ set, page.outstanding = some set ∧ id ∈ set.ids

theorem not_tracks_of_isEmpty {set : Outstanding ι} (hset : page.outstanding = some set)
    (hempty : set.isEmpty = true) : ¬ page.Tracks id := by
  rintro ⟨set', hset', hid⟩
  rw [hset, Option.some.injEq] at hset'
  subst hset'
  rw [Outstanding.isEmpty_iff.mp hempty] at hid
  exact List.not_mem_nil hid

variable [DecidableEq ι]

theorem tracks_noteScheduled (h : page.isIntercepted = true) :
    (page.noteScheduled kind id).1.Tracks other ↔ other = id ∨ page.Tracks other := by
  obtain ⟨set, hset⟩ := Option.isSome_iff_exists.mp h
  simp [Tracks, noteScheduled, hset]

theorem tracks_noteCleared :
    (page.noteCleared kind id found).1.Tracks other ↔ other ≠ id ∧ page.Tracks other := by
  cases hset : page.outstanding with
  | none => simp [Tracks, noteCleared, hset]
  | some set => simp [Tracks, noteCleared, hset]

@[simp] theorem isIntercepted_note {α : Type} (request : Request ι α)
    (result : Except TimerError (Answer ι)) :
    (page.note request result).1.isIntercepted = page.isIntercepted := by
  unfold note
  split
  · cases hset : page.outstanding <;> simp [isIntercepted, noteScheduled, hset]
  · cases hset : page.outstanding <;> simp [isIntercepted, noteCleared, hset]
  · rfl

end Page

/-! ## The machine -/

namespace World

variable {σ κ ι : Type}

@[simp] theorem record_page (world : World σ ι) (entry : Entry ι) :
    (world.record entry).page = world.page := rfl

@[simp] theorem journaled_page (world : World σ ι) (events : List (Event ι)) :
    (world.journaled events).page = world.page := rfl

@[simp] theorem turnPage_page (world : World σ ι) (change : Page ι × List (Event ι)) :
    (world.turnPage change).page = change.1 := rfl

@[simp] theorem bindName_page (world : World σ ι) (action : Action ι)
    (result : Except TimerError (Answer ι)) : (world.bindName action result).page = world.page := by
  unfold bindName; split <;> rfl

end World

namespace Machine

variable {σ κ ι : Type} [DecidableEq ι] [Identifier ι] {P : Provider σ κ ι (Handler ι)}

/-- What is done at once leaves the set alone, unless it installs it. -/
theorem plan_finish_outstanding {world world' : World σ ι} {caller : Caller ι} {action : Action ι}
    {result : Result ι} (h : plan P world caller action = .finish result world') :
    world'.page.outstanding = world.page.outstanding ∨
      world.page.outstanding = none ∧ world'.page.outstanding = some .empty := by
  have hmonitor : ∀ probes, (world.page.installMonitor probes).1.outstanding =
      world.page.outstanding := by
    intro probes
    unfold Page.installMonitor
    split <;> rfl
  cases action with
  | installInterceptor =>
      cases h
      cases hset : world.page.outstanding with
      | none => exact Or.inr ⟨rfl, by simp [Page.installInterceptor, hset]⟩
      | some set => exact Or.inl (by simp [Page.installInterceptor, hset])
  | installMonitor settings =>
      cases settings <;> cases h
      · exact Or.inl rfl
      · exact Or.inl (hmonitor _)
  | installProbes probes =>
      cases h
      exact Or.inl (hmonitor _)
  | clear _ _ _ | contains _ =>
      simp only [plan] at h
      split at h <;> cases h
      all_goals exact Or.inl rfl
  | schedule _ _ _ _ _ | drain _ | throw => cases h
  | _ =>
      cases h
      exact Or.inl rfl

section Settle

variable {world : World σ ι} {w : Waiting κ ι} {stack : List (Waiting κ ι × κ)}
  {move : Move σ κ ι (Handler ι)}

omit [Identifier ι] in
/-- An answer changes the page where the interceptor sees it. -/
theorem settle_page_of_answer {result : Except TimerError (Answer ι)}
    (h : move.outcome = .answer result) :
    (settle P world w stack move).world.page =
      if w.watched then (world.page.note w.request result).1 else world.page := by
  unfold settle
  rw [h]
  cases hw : w.watched <;> simp [answered, hw]

omit [Identifier ι] in
/-- Whatever a provider does, what no note changes stays. -/
theorem settle_keeps {β : Type} {f : Page ι → β}
    (hnote : ∀ page result, f (page.note w.request result).1 = f page) :
    f (settle P world w stack move).world.page = f world.page := by
  cases hmove : move.outcome with
  | answer result =>
      rw [settle_page_of_answer hmove]
      split
      · exact hnote world.page result
      · rfl
  | invoke firing suspended => simp [settle, hmove]
  | rethrow => simp [settle, hmove]

omit [Identifier ι] in
/-- Whatever the interceptor does not see changes nothing. -/
theorem settle_page_of_unwatched (h : w.watched = false) :
    (settle P world w stack move).world.page = world.page := by
  cases hmove : move.outcome with
  | answer result =>
      rw [settle_page_of_answer hmove, h]
      rfl
  | invoke firing suspended => simp [settle, hmove]
  | rethrow => simp [settle, hmove]

omit [Identifier ι] in
/-- An action waits on the stack where its request waits for a callback. -/
theorem mem_settle_stack {frame : Waiting κ ι × κ}
    (h : frame ∈ (settle P world w stack move).stack) :
    frame ∈ stack ∨ frame.1 = w ∧ ∃ firing, move.outcome = .invoke firing frame.2 := by
  unfold settle at h
  cases hmove : move.outcome with
  | answer result => exact Or.inl (by simpa [hmove] using h)
  | rethrow => exact Or.inl (by simpa [hmove] using h)
  | invoke firing suspended =>
      rw [hmove] at h
      rcases List.mem_cons.mp h with rfl | h
      · exact Or.inr ⟨rfl, firing, rfl⟩
      · exact Or.inl h

end Settle

end Machine

end PageTimers
