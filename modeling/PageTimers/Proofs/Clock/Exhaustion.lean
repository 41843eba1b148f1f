/-
# A drain that gives up names its limit

The error of a drain that gives up says how many callbacks it was allowed.
Drains inside callbacks have counts of their own, so a program may see that
error while other drains still wait further out, each with some of its turns
left.  What a drain has taken and what it has left make up its limit, from the
first turn on; that holds of every drain that waits (`Reckoned.waiting`), and
so the count at which one gives up is the limit, in the middle of a nest of
callbacks as on the outside.
-/
import PageTimers.Proofs.Clock.History

namespace PageTimers

namespace VirtualClock

variable {α : Type} {limit : Nat}

/-- What a move tells of the limit: the error names it, and a drain that waits
for a callback has it split into what was taken and what is left. -/
structure Reckons (limit : Nat) (move : Move (VirtualClock α) (UnderWay α) TimerId α) : Prop where
  named : ∀ passed, move.outcome = .answer (.error (.stepLimitExceeded passed)) →
    passed = clampLimit limit
  waiting : ∀ firing u, move.outcome = .invoke firing u → u.ran + u.left = clampLimit limit

/-- Moves that neither start a callback nor give up. -/
theorem Reckons.of_answer {move : Move (VirtualClock α) (UnderWay α) TimerId α}
    {result : Except TimerError (Answer TimerId)} (h : move.outcome = .answer result)
    (hresult : ∀ passed, result ≠ .error (.stepLimitExceeded passed)) : Reckons limit move where
  named passed hpassed := by
    rw [h] at hpassed
    cases hpassed
    exact absurd rfl (hresult passed)
  waiting _ _ hinvoke := by
    rw [h] at hinvoke
    cases hinvoke

theorem reckons_proceed {left ran : Nat} (h : ran + left = clampLimit limit) (goal : Goal)
    (clock : VirtualClock α) : Reckons limit (proceed goal left ran clock) := by
  rcases proceed_cases goal left ran clock with
    ⟨-, hmove⟩ | ⟨rfl, hmove⟩ | ⟨timer, left', -, rfl, hmove⟩ <;> rw [hmove]
  · exact .of_answer rfl fun _ h => by cases h
  · refine ⟨fun passed hpassed => ?_, nofun⟩
    cases hpassed
    exact h
  · refine ⟨nofun, fun firing u hinvoke => ?_⟩
    cases hinvoke
    rw [← h, Nat.add_right_comm, Nat.add_assoc]

/-- A drain that is refused from the start is refused for the end of time. -/
theorem Goal.overflow_of_error {drain : Drain} {now : Nat} {e : TimerError}
    (h : Goal.of drain now = .error e) : ∃ delta, e = .clockOverflow now delta := by
  cases drain with
  | advance span =>
      simp only [Goal.of] at h
      split at h <;> cases h
      exact ⟨span.millis, rfl⟩
  | runDue => cases h
  | flush => cases h

theorem reckons_ask (limit : Nat) (request : Request TimerId α) (clock : VirtualClock α) :
    Reckons limit (ask limit request clock) := by
  cases request with
  | schedule kind callback delay => exact .of_answer rfl fun _ h => by cases h
  | clear kind id => exact .of_answer rfl fun _ h => by cases h
  | drain drain =>
      simp only [ask]
      cases hgoal : Goal.of drain clock.now with
      | error e =>
          obtain ⟨delta, rfl⟩ := Goal.overflow_of_error hgoal
          exact .of_answer rfl fun _ h => by cases h
      | ok goal => exact reckons_proceed (Nat.zero_add _) goal clock

theorem reckons_resume {u : UnderWay α} (h : u.ran + u.left = clampLimit limit) (ended : Ended)
    (clock : VirtualClock α) : Reckons limit (resume u ended clock) := by
  cases ended with
  | returned => exact reckons_proceed h u.goal (clock.finish u.timer)
  | thrown => exact ⟨nofun, nofun⟩

end VirtualClock

/-! ## Steps of the machine -/

namespace Machine

variable {limit : Nat} {m m' : ClockMachine}

/-- So far every drain that gave up has named the limit, and every drain that
waits still has to it what it has not taken. -/
structure Reckoned (limit : Nat) (m : ClockMachine) : Prop where
  named : ∀ caller action passed,
    Entry.did caller action (.answered (.error (.stepLimitExceeded passed))) ∈ m.world.log →
      passed = VirtualClock.clampLimit limit
  waiting : ∀ frame ∈ m.stack, frame.2.ran + frame.2.left = VirtualClock.clampLimit limit

namespace Reckoned

theorem settle {world : ClockWorld} {control : Control TimerId}
    {stack : List (Waiting (VirtualClock.UnderWay (Handler TimerId)) TimerId ×
      VirtualClock.UnderWay (Handler TimerId))}
    {move : Move (VirtualClock (Handler TimerId)) (VirtualClock.UnderWay (Handler TimerId)) TimerId
      (Handler TimerId)}
    (h : Reckoned limit ⟨world, control, stack⟩) (hmove : VirtualClock.Reckons limit move)
    (w : Waiting (VirtualClock.UnderWay (Handler TimerId)) TimerId) :
    (Machine.settle (VirtualClock.provider limit) world w stack move).Reckoned limit := by
  unfold Machine.settle
  cases houtcome : move.outcome with
  | answer result =>
      refine ⟨fun caller action passed hentry => ?_, h.waiting⟩
      rw [answered_log] at hentry
      rcases List.mem_cons.mp hentry with heq | hbefore
      · cases heq
        exact hmove.named passed houtcome
      · exact h.named caller action passed hbefore
  | invoke firing u =>
      refine ⟨fun caller action passed hentry => ?_, ?_⟩
      · rcases List.mem_cons.mp hentry with heq | hbefore
        · cases heq
        · exact h.named caller action passed hbefore
      · exact List.forall_mem_cons.mpr ⟨hmove.waiting firing u houtcome, h.waiting⟩
  | rethrow => exact ⟨h.named, h.waiting⟩

theorem course {c : Option (Contact TimerId (Handler TimerId))}
    (h : m.Reckoned limit) (hcourse : Course (VirtualClock.provider limit) m c m') :
    m'.Reckoned limit := by
  cases hcourse with
  | stays | halts | throws => exact ⟨h.named, h.waiting⟩
  | did rest stack hplan =>
      refine ⟨fun caller action passed hentry => ?_, h.waiting⟩
      rcases List.mem_cons.mp hentry with heq | hbefore
      · cases heq
        exact absurd rfl (plan_finish_result hplan _)
      · rw [(plan_finish hplan).2] at hbefore
        exact h.named caller action passed hbefore
  | asked rest stack hplan => exact h.settle (VirtualClock.reckons_ask limit _ _) _
  | ended world control frame stack ended =>
      obtain ⟨hframe, hstack⟩ := List.forall_mem_cons.mp h.waiting
      have hbelow : Reckoned limit ⟨world, control, stack⟩ := ⟨h.named, hstack⟩
      exact hbelow.settle (VirtualClock.reckons_resume hframe ended _) frame.1

end Reckoned

end Machine

/-! ## Whole runs -/

namespace ClockSession

theorem reckoned_after (limit : Nat) (globals : Globals) (actions : List (Action TimerId))
    (n : Nat) : ((fresh globals actions).after limit n).machine.Reckoned limit :=
  (Session.after_invariant ⟨fun _ _ _ h => absurd h List.not_mem_nil, nofun⟩
    (fun m h => h.course m.course_step) (fun _ h _ _ _ => ⟨h.named, nofun⟩) n).1

end ClockSession

end PageTimers
