/-
# The clock does not look into callbacks

A virtual clock keeps the callbacks that it is given and hands them back; what
they are makes no difference to it.  So to change every callback that a clock
holds, and every one that reaches it, in the same way changes nothing but the
callbacks that it starts:

    change, then serve   =   serve, then change

for each request (`ask_map`) and for each end of a callback (`resume_map`).  What
the clock shows, what waits and for how long, and which timer comes next is the
same all along.
-/
import PageTimers.Proofs.Clock.Queue

namespace PageTimers

section Map

variable {α β κ μ ι : Type} (φ : α → β)

def QueuedTimer.map (timer : QueuedTimer α) : QueuedTimer β :=
  ⟨timer.id, timer.dueAt, timer.order, timer.period, φ timer.callback, timer.runs⟩

def VirtualClock.map (clock : VirtualClock α) : VirtualClock β :=
  ⟨clock.now, clock.lastId, clock.lastOrder, clock.queue.map (.map φ), clock.running⟩

def VirtualClock.UnderWay.map (drain : UnderWay α) : UnderWay β :=
  ⟨drain.goal, drain.left, drain.ran, drain.timer.map φ⟩

def Request.map : Request ι α → Request ι β
  | .schedule kind callback delay => .schedule kind (φ callback) delay
  | .clear kind id => .clear kind id
  | .drain which => .drain which

def Firing.map (firing : Firing ι α) : Firing ι β := ⟨firing.id, φ firing.callback, firing.count⟩

/-- The outcome, with every callback in it changed. -/
def Outcome.map (suspended : κ → μ) : Outcome κ ι α → Outcome μ ι β
  | .answer result => .answer result
  | .invoke firing u => .invoke (firing.map φ) (suspended u)
  | .rethrow => .rethrow

/-- The move of a clock, with every callback in it changed. -/
def VirtualClock.mapMove (move : Move (VirtualClock α) (UnderWay α) TimerId α) :
    Move (VirtualClock β) (UnderWay β) TimerId β :=
  ⟨move.events, move.state.map φ, move.outcome.map φ (.map φ)⟩

end Map

/-! ## Timers -/

namespace QueuedTimer

variable {α β : Type} {φ : α → β}

theorem earlier_map (s t : QueuedTimer α) : (s.map φ).earlier (t.map φ) = (s.earlier t).map φ :=
  (apply_ite (map φ) (s.precedes t = true) s t).symm

/-- Which timer fires first does not depend on callbacks. -/
theorem earliest?_map (timers : List (QueuedTimer α)) :
    earliest? (timers.map (map φ)) = (earliest? timers).map (map φ) := by
  cases timers with
  | nil => rfl
  | cons t rest =>
      rw [List.map_cons, earliest?, earliest?, Option.map_some, List.foldl_map,
        List.foldl_hom (map φ) earlier_map]

end QueuedTimer

/-! ## The clock -/

namespace VirtualClock

variable {α β : Type} {φ : α → β} {clock : VirtualClock α}

theorem map_map {γ : Type} (ψ : β → γ) : (clock.map φ).map ψ = clock.map (ψ ∘ φ) := by
  rw [map, map, map, List.map_map]
  rfl

theorem next?_map (deadline : Option Nat) :
    (clock.map φ).next? deadline = (clock.next? deadline).map (.map φ) := by
  rw [next?, next?, ← QueuedTimer.earliest?_map, map, List.filter_map]
  rfl

theorem pending_map : (clock.map φ).pending = clock.pending.map (.map φ) := by
  have hsame : ∀ s ∈ clock.queue, ∀ t ∈ clock.queue,
      s.precedes t = (s.map φ).precedes (t.map φ) := fun _ _ _ _ => rfl
  exact (List.map_mergeSort hsame).symm

theorem start_map (timer : QueuedTimer α) :
    (clock.map φ).start (timer.map φ) = (clock.start timer).map φ := by
  simp only [start, map, List.filter_map]
  rfl

theorem cancel_map (id : TimerId) :
    (clock.map φ).cancel id = ((clock.cancel id).1, (clock.cancel id).2.map φ) := by
  simp only [cancel, map, List.filter_map, List.any_map]
  rfl

theorem finish_map (timer : QueuedTimer α) :
    (clock.map φ).finish (timer.map φ) = (clock.finish timer).map φ := by
  cases hperiod : timer.period with
  | none => simp only [finish, QueuedTimer.map, hperiod]; rfl
  | some period =>
      have hcancelled : (clock.map φ).wasCancelled = clock.wasCancelled := rfl
      simp only [finish, QueuedTimer.map, hperiod, hcancelled]
      split <;> rfl

theorem proceed_map (goal : Goal) (left ran : Nat) :
    proceed goal left ran (clock.map φ) = mapMove φ (proceed goal left ran clock) := by
  rw [proceed, proceed, next?_map]
  cases clock.next? goal.deadline with
  | none => cases goal <;> rfl
  | some timer =>
      cases left with
      | zero => rfl
      | succ left =>
          simp only [Option.map_some, start_map]
          rfl

/-- A request is served the same whatever callbacks there are. -/
theorem ask_map (limit : Nat) (request : Request TimerId α) :
    ask limit (request.map φ) (clock.map φ) = mapMove φ (ask limit request clock) := by
  cases request with
  | schedule kind callback delay => rfl
  | clear kind id =>
      simp only [Request.map, ask, cancel_map]
      rfl
  | drain drain =>
      simp only [Request.map, ask, show (clock.map φ).now = clock.now from rfl]
      cases Goal.of drain clock.now with
      | error e => rfl
      | ok goal => exact proceed_map goal _ 0

/-- A drain goes on the same whatever callbacks there are. -/
theorem resume_map (drain : UnderWay α) (ended : Ended) :
    resume (drain.map φ) ended (clock.map φ) = mapMove φ (resume drain ended clock) := by
  cases ended with
  | thrown => rfl
  | returned =>
      show proceed drain.goal drain.left drain.ran ((clock.map φ).finish (drain.timer.map φ)) = _
      rw [finish_map, proceed_map]
      rfl

/-- The debugging view shows nothing of a timer. -/
theorem describe_congr {clock' : VirtualClock β} (limit : Nat) (hnow : clock'.now = clock.now)
    (hlength : clock'.queue.length = clock.queue.length) :
    describe limit clock' = describe limit clock := by
  unfold describe
  simp only [hnow, hlength]

theorem describe_map (limit : Nat) : describe limit (clock.map φ) = describe limit clock :=
  describe_congr limit rfl (List.length_map _)

/-- What waits is the same to whoever looks at it. -/
theorem toPending_map :
    (clock.map φ).pending.map QueuedTimer.toPending = clock.pending.map QueuedTimer.toPending := by
  rw [pending_map, List.map_map]
  rfl

end VirtualClock

end PageTimers
