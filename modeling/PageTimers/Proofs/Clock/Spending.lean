/-
# What callbacks cost a drain

A drain counts the callbacks that it starts and gives up at its limit.  A
drain inside a callback has a count of its own, so the limit bounds every
level of the nesting and says nothing about the depth.  What bounds the depth
is that the drains of a program are written down: each of them is asked for
once, unless it stands in a callback that comes back.

    still      no repeating timer drains in its callback, nor schedules a
               callback that does

A machine that holds only still timers owes so many callbacks at most:

    limit * (drains still written somewhere)  +  turns left to the drains under way

A callback that is started costs one of the turns left, and what is written
in it moves from the queue to what is run.  Asking for a drain turns one that
is written into as many turns as the limit.  Arming a repeating timer again
would write its callback a second time; here stillness is used.  A step that
starts no callback makes the machine's own work less (`Machine.Still.pays`).
-/
import Mathlib.Algebra.GroupWithZero.Nat
import Mathlib.Algebra.Order.BigOperators.Group.List
import Mathlib.Algebra.Order.Group.Nat
import PageTimers.Proofs.Clock.Obedience

namespace PageTimers

/-! ## What is written in a program -/

section Written

variable {ι : Type}

mutual

/-- How many drains an action asks for, itself or in the callbacks that it
brings along. -/
def Action.drainCount : Action ι → Nat
  | .schedule _ _ _ _ handler => handler.drainCount
  | .drain _ => 1
  | _ => 0

def Handler.drainCount : Handler ι → Nat
  | .mk _ ticks body => tickDrains ticks + drainsOf body

def drainsOf : List (Action ι) → Nat
  | [] => 0
  | action :: rest => action.drainCount + drainsOf rest

def tickDrains : List (List (Action ι)) → Nat
  | [] => 0
  | actions :: rest => drainsOf actions + tickDrains rest

end

theorem drainsOf_le_tickDrains {actions : List (Action ι)} {ticks : List (List (Action ι))}
    (h : actions ∈ ticks) : drainsOf actions ≤ tickDrains ticks := by
  induction ticks with
  | nil => exact absurd h List.not_mem_nil
  | cons first rest ih =>
      rw [tickDrains]
      rcases List.mem_cons.mp h with rfl | h
      · exact Nat.le_add_right _ _
      · exact Nat.le_add_left_of_le (ih h)

/-- A firing does what is written in the callback. -/
theorem Handler.drainsOf_actions (handler : Handler ι) (count : Nat) :
    drainsOf (handler.actions count) ≤ handler.drainCount := by
  obtain ⟨quiet, ticks, body⟩ := handler
  rw [Handler.actions, Handler.drainCount]
  cases hcount : ticks[count]? with
  | none => exact Nat.le_add_left _ _
  | some actions =>
      exact Nat.le_add_right_of_le (drainsOf_le_tickDrains (List.mem_of_getElem? hcount))

/-- A repeating timer that the action schedules does not drain. -/
def Action.isStill : Action ι → Bool
  | .schedule _ .repeating _ _ handler => handler.drainCount == 0
  | _ => true

/-- No repeating timer drains that the action schedules, itself or in the
callbacks that it brings along. -/
def Action.still (a : Action ι) : Bool := a.isStill && a.obeys Action.isStill

end Written

/-- A timer that schedules still ones, and is still if it repeats. -/
structure QueuedTimer.Still (t : QueuedTimer (Handler TimerId)) : Prop where
  obeys : t.callback.obeys Action.isStill = true
  repeats : t.period.isSome → t.callback.drainCount = 0

namespace VirtualClock

/-- How many drains are written in the callbacks that wait. -/
def drainsWaiting (clock : VirtualClock (Handler TimerId)) : Nat :=
  (clock.queue.map (·.callback.drainCount)).sum

variable {clock : VirtualClock (Handler TimerId)}

theorem sum_filter_add_le {α : Type} {f : α → Nat} {keep : α → Bool} {a : α} {l : List α}
    (ha : a ∈ l) (hdrop : keep a = false) : ((l.filter keep).map f).sum + f a ≤ (l.map f).sum := by
  induction l with
  | nil => exact absurd ha List.not_mem_nil
  | cons b rest ih =>
      have hrest : ((rest.filter keep).map f).sum ≤ (rest.map f).sum :=
        (List.filter_sublist.map f).sum_le_sum fun _ _ => Nat.zero_le _
      rw [List.filter_cons, List.map_cons, List.sum_cons]
      rcases List.mem_cons.mp ha with rfl | ha
      · rw [hdrop, if_neg Bool.false_ne_true]
        omega
      · have hle := ih ha
        split
        · rw [List.map_cons, List.sum_cons]
          omega
        · omega

theorem drainsWaiting_schedule (kind : TimerKind) (handler : Handler TimerId) (delay : Duration) :
    (clock.schedule kind handler delay).2.drainsWaiting =
      handler.drainCount + clock.drainsWaiting := by
  simp [drainsWaiting, scheduledTimer]

theorem drainsWaiting_cancel (id : TimerId) :
    (clock.cancel id).2.drainsWaiting ≤ clock.drainsWaiting :=
  (List.filter_sublist.map _).sum_le_sum fun _ _ => Nat.zero_le _

theorem drainsWaiting_start {timer : QueuedTimer (Handler TimerId)} (ht : timer ∈ clock.queue) :
    (clock.start timer).drainsWaiting + timer.callback.drainCount ≤ clock.drainsWaiting :=
  sum_filter_add_le ht (by simp)

/-- Arming a timer again writes no drain a second time. -/
theorem drainsWaiting_finish {timer : QueuedTimer (Handler TimerId)} (h : timer.Still) :
    (clock.finish timer).drainsWaiting = clock.drainsWaiting := by
  rcases finish_cases timer clock with ⟨hrest, -⟩ | ⟨period, hperiod, -, hqueue, -⟩
  · rw [hrest]
    rfl
  · have hstill : timer.callback.drainCount = 0 := h.repeats (by rw [hperiod]; rfl)
    rw [drainsWaiting, hqueue]
    simp [rearmed, hstill, drainsWaiting]

/-- A move starts a callback only if its drain has turns `left`, and the drains
written in the callback are among those `written` in what waited. -/
structure Spends (left written : Nat)
    (move : Move (VirtualClock (Handler TimerId)) (UnderWay (Handler TimerId)) TimerId
      (Handler TimerId)) : Prop where
  waiting : move.state.drainsWaiting ≤ written
  invoked : ∀ firing u, move.outcome = .invoke firing u → firing = u.timer.firing ∧
    u.left + 1 ≤ left ∧ move.state.drainsWaiting + u.timer.callback.drainCount ≤ written

theorem spends_proceed (goal : Goal) (left ran : Nat) (clock : VirtualClock (Handler TimerId)) :
    Spends left clock.drainsWaiting (proceed goal left ran clock) := by
  rcases proceed_cases goal left ran clock with
    ⟨-, hmove⟩ | ⟨-, hmove⟩ | ⟨timer, left', hnext, rfl, hmove⟩ <;> rw [hmove]
  · refine ⟨?_, fun _ _ hinvoke => by cases hinvoke⟩
    rw [drainsWaiting, reach_queue]
    exact Nat.le_refl _
  · exact ⟨Nat.le_refl _, fun _ _ hinvoke => by cases hinvoke⟩
  · have hstart := drainsWaiting_start (next?_spec hnext).1
    refine ⟨Nat.le_of_add_right_le hstart, ?_⟩
    rintro _ _ ⟨⟩
    exact ⟨rfl, Nat.le_refl _, hstart⟩

theorem spends_drain (limit : Nat) (drain : Drain) (clock : VirtualClock (Handler TimerId)) :
    Spends (clampLimit limit) clock.drainsWaiting (ask limit (.drain drain) clock) := by
  rcases ask_drain_cases limit drain clock with ⟨e, hask⟩ | ⟨goal, -, hask⟩ <;> rw [hask]
  · exact ⟨Nat.le_refl _, fun _ _ hinvoke => by cases hinvoke⟩
  · exact spends_proceed goal _ 0 clock

theorem spends_resume {u : UnderWay (Handler TimerId)} (h : u.timer.Still) (ended : Ended)
    (clock : VirtualClock (Handler TimerId)) :
    Spends u.left clock.drainsWaiting (resume u ended clock) := by
  cases ended with
  | thrown => exact ⟨Nat.le_refl _, fun _ _ hinvoke => by cases hinvoke⟩
  | returned =>
      rw [← drainsWaiting_finish h]
      exact spends_proceed u.goal u.left u.ran (clock.finish u.timer)

end VirtualClock

/-- How many drains are written in what is run next. -/
def Control.drainCount {ι : Type} : Control ι → Nat
  | .run _ actions => drainsOf actions
  | .unwind => 0
  | .halt _ => 0

/-- The steps that are certain to be taken before the control changes. -/
def Control.work {ι : Type} : Control ι → Nat
  | .run _ actions => actions.length + 2
  | .unwind => 1
  | .halt _ => 0

namespace Machine

/-! ## What a machine owes -/

/-- How many drains are written in what is still to be run. -/
def drainsWritten (m : ClockMachine) : Nat :=
  m.control.drainCount + (m.stack.map fun frame => drainsOf frame.1.rest).sum +
    m.world.provider.drainsWaiting

/-- How many callbacks the drains under way may still start. -/
def turnsLeft (m : ClockMachine) : Nat := (m.stack.map (·.2.left)).sum

/-- How many callbacks the machine may still start. -/
def owed (limit : Nat) (m : ClockMachine) : Nat :=
  VirtualClock.clampLimit limit * m.drainsWritten + m.turnsLeft

/-- What is to be done before the next callback is started. -/
def work (m : ClockMachine) : Nat :=
  m.control.work + (m.stack.map (·.1.rest.length + 3)).sum

/-- How many callbacks were started. -/
def startCount (m : ClockMachine) : Nat := (m.world.log.filterMap Entry.start?).length

/-- A move pays for the callback that it starts, or starts none and leaves
less to do. -/
def Pays (limit : Nat) (m m' : ClockMachine) : Prop :=
  (m'.startCount = m.startCount + 1 ∧ m'.owed limit + 1 ≤ m.owed limit) ∨
  (m'.startCount = m.startCount ∧ m'.owed limit ≤ m.owed limit ∧ m'.work < m.work)

variable {limit : Nat} {m m' : ClockMachine} {c : Option (Contact TimerId (Handler TimerId))}
  {world : World (VirtualClock (Handler TimerId)) TimerId}
  {w : Waiting (VirtualClock.UnderWay (Handler TimerId)) TimerId}
  {stack : List (Waiting (VirtualClock.UnderWay (Handler TimerId)) TimerId ×
    VirtualClock.UnderWay (Handler TimerId))}
  {move : Move (VirtualClock (Handler TimerId)) (VirtualClock.UnderWay (Handler TimerId)) TimerId
    (Handler TimerId)}

/-- A step that starts no callback, writes no drain and leaves less to do. -/
theorem Pays.of_work (hstarts : m'.startCount = m.startCount)
    (hwritten : m'.drainsWritten ≤ m.drainsWritten) (hleft : m'.turnsLeft = m.turnsLeft)
    (hwork : m'.work < m.work) : Pays limit m m' :=
  Or.inr ⟨hstarts, Nat.add_le_add (Nat.mul_le_mul_left _ hwritten) (Nat.le_of_eq hleft), hwork⟩

/-- A move pays out of the turns `left` to its drain and the drains `written`
in what waits. -/
theorem pays_settle {left written : Nat} (hspends : VirtualClock.Spends left written move)
    (hstarts : m.startCount = (world.log.filterMap Entry.start?).length)
    (howed : VirtualClock.clampLimit limit *
        (drainsOf w.rest + (stack.map fun frame => drainsOf frame.1.rest).sum + written) +
      (left + (stack.map (·.2.left)).sum) ≤ m.owed limit)
    (hwork : w.rest.length + 2 + (stack.map (·.1.rest.length + 3)).sum < m.work) :
    Pays limit m (settle (VirtualClock.provider limit) world w stack move) := by
  have hlog : startCount (settle (VirtualClock.provider limit) world w stack move) = _ :=
    congrArg List.length (starts_settle (P := VirtualClock.provider limit) world w stack move)
  rw [List.length_append, ← hstarts] at hlog
  unfold Provider.startedBy? at hlog
  unfold Pays
  rw [hlog]
  generalize m.owed limit = debt at howed ⊢
  generalize m.work = todo at hwork ⊢
  unfold settle
  cases hmove : move.outcome with
  | answer result =>
      refine Or.inr ⟨Nat.zero_add _, ?_, ?_⟩
      · have hmul := Nat.mul_le_mul_left (VirtualClock.clampLimit limit)
          (Nat.add_le_add_left hspends.waiting
            (drainsOf w.rest + (stack.map fun frame => drainsOf frame.1.rest).sum))
        simp only [owed, drainsWritten, turnsLeft, Control.drainCount, answered_provider,
          World.journaled_provider]
        omega
      · exact hwork
  | rethrow =>
      refine Or.inr ⟨Nat.zero_add _, ?_, ?_⟩
      · have hmul := Nat.mul_le_mul_left (VirtualClock.clampLimit limit)
          (Nat.add_le_add (Nat.le_add_left (stack.map fun frame => drainsOf frame.1.rest).sum
            (drainsOf w.rest)) hspends.waiting)
        simp only [owed, drainsWritten, turnsLeft, Control.drainCount, World.journaled_provider,
          Nat.zero_add]
        omega
      · simp only [work, Control.work]
        omega
  | invoke firing u =>
      obtain ⟨rfl, hleft, hpaid⟩ := hspends.invoked firing u hmove
      refine Or.inl ⟨Nat.add_comm _ _, ?_⟩
      have hactions := Handler.drainsOf_actions u.timer.callback u.timer.runs
      have hle : drainsOf (u.timer.callback.actions u.timer.runs) +
          (drainsOf w.rest + (stack.map fun frame => drainsOf frame.1.rest).sum) +
            move.state.drainsWaiting ≤
          drainsOf w.rest + (stack.map fun frame => drainsOf frame.1.rest).sum + written := by
        omega
      have hmul := Nat.mul_le_mul_left (VirtualClock.clampLimit limit) hle
      simp only [owed, drainsWritten, turnsLeft, Control.drainCount, World.record_provider,
        World.journaled_provider, List.map_cons, List.sum_cons, QueuedTimer.firing]
      omega

/-- To carry out an action is work. -/
theorem work_call (world : World (VirtualClock (Handler TimerId)) TimerId) (caller : Caller TimerId)
    (action : Action TimerId) (rest : List (Action TimerId))
    (stack : List (Waiting (VirtualClock.UnderWay (Handler TimerId)) TimerId ×
      VirtualClock.UnderWay (Handler TimerId))) :
    rest.length + 2 + (stack.map (·.1.rest.length + 3)).sum <
      work (⟨world, .run caller (action :: rest), stack⟩ : ClockMachine) :=
  Nat.add_lt_add_right (Nat.lt_succ_self _) _

/-- A call that starts nothing pays, when it brings along what is written in
its action. -/
theorem pays_call {caller : Caller TimerId} {action : Action TimerId}
    {request : Request TimerId (Handler TimerId)} {watched : Bool} {rest : List (Action TimerId)}
    (hspends : VirtualClock.Spends 0 (action.drainCount + world.provider.drainsWaiting) move) :
    Pays limit ⟨world, .run caller (action :: rest), stack⟩
      (settle (VirtualClock.provider limit) world ⟨caller, action, request, watched, rest⟩ stack
        move) := by
  refine pays_settle hspends rfl (Nat.add_le_add (Nat.mul_le_mul_left _ ?_) ?_)
    (work_call world caller action rest stack)
  · simp only [drainsWritten, Control.drainCount, drainsOf]
    omega
  · exact Nat.le_of_eq (Nat.zero_add _)

/-! ## Still machines -/

/-- Nothing that the machine holds lets a repeating timer drain. -/
structure Still (m : ClockMachine) : Prop where
  timers : ∀ t ∈ VirtualClock.held m.site, t.Still
  frames : ∀ frame ∈ m.stack, ∀ a ∈ frame.1.rest, a.still = true
  control : ∀ caller actions, m.control = .run caller actions → ∀ a ∈ actions, a.still = true

namespace Still

theorem settle (htimers : ∀ t ∈ VirtualClock.held (move.land (stack.map (·.2))), t.Still)
    (hframes : ∀ frame ∈ stack, ∀ a ∈ frame.1.rest, a.still = true)
    (hrest : ∀ a ∈ w.rest, a.still = true)
    (hinvoke : ∀ firing u, move.outcome = .invoke firing u → firing = u.timer.firing) :
    (Machine.settle (VirtualClock.provider limit) world w stack move).Still := by
  rw [← site_settle (P := VirtualClock.provider limit) world w stack move] at htimers
  unfold Machine.settle at htimers ⊢
  cases hmove : move.outcome with
  | answer result =>
      simp only [hmove] at htimers ⊢
      refine ⟨htimers, hframes, ?_⟩
      rintro caller actions hrun
      cases hrun
      exact hrest
  | rethrow =>
      simp only [hmove] at htimers ⊢
      exact ⟨htimers, hframes, fun _ _ hrun => by cases hrun⟩
  | invoke firing u =>
      simp only [hmove] at htimers ⊢
      obtain rfl := hinvoke firing u hmove
      refine ⟨htimers, ?_, ?_⟩
      · intro frame hframe
        rcases List.mem_cons.mp hframe with rfl | hframe
        · exact hrest
        · exact hframes frame hframe
      · rintro caller actions hrun a ha
        cases hrun
        have hu : u.timer.Still :=
          htimers u.timer (VirtualClock.mem_held.mpr (Or.inr ⟨u, List.mem_cons_self, rfl⟩))
        exact Bool.and_eq_true_iff.mpr (Handler.obeys_actions hu.obeys u.timer.runs a ha)

/-- A timer that is scheduled by a still action is still. -/
theorem scheduled {route : Route} {kind : TimerKind} {delay : Duration} {name : Option String}
    {handler : Handler TimerId} (h : (Action.schedule route kind delay name handler).still = true)
    (clock : VirtualClock (Handler TimerId)) : (clock.scheduledTimer kind handler delay).Still := by
  obtain ⟨hstill, hobeys⟩ := Bool.and_eq_true_iff.mp h
  refine ⟨hobeys, fun hperiod => ?_⟩
  cases kind with
  | once => cases hperiod
  | repeating => exact beq_iff_eq.mp hstill

/-- Serving a contact keeps the timers still that the clock holds. -/
theorem held_serve (h : m.Still) {contact : Contact TimerId (Handler TimerId)}
    (hcourse : Course (VirtualClock.provider limit) m (some contact) m') :
    ∀ t ∈ VirtualClock.held ((VirtualClock.provider limit).serve contact m.site), t.Still := by
  refine VirtualClock.timers_serve limit h.timers ?_ ?_
  · exact fun t period clock hperiod ht => ⟨ht.obeys, fun _ => ht.repeats (by rw [hperiod]; rfl)⟩
  · rintro kind handler delay rfl
    cases hcourse with
    | @asked world caller action _ watched rest stack hplan =>
        rcases plan_ask hplan with ⟨route, _, _, name, _, rfl, he, -⟩ | ⟨_, _, _, _, _, _, he, _⟩ |
          ⟨_, _, he, _⟩
        · cases he
          exact scheduled (h.control caller _ rfl _ List.mem_cons_self) world.provider
        · cases he
        · cases he

theorem course (h : m.Still) (hcourse : Course (VirtualClock.provider limit) m c m') :
    m'.Still := by
  have hserve := fun contact (hc : c = some contact) => h.held_serve (hc ▸ hcourse)
  cases hcourse with
  | stays | halts | throws => exact ⟨h.timers, h.frames, fun _ _ hrun => by cases hrun⟩
  | @did world world' caller action result rest stack hplan =>
      refine ⟨?_, h.frames, ?_⟩
      · have hsite : (⟨world', .run caller rest, stack⟩ : ClockMachine).site =
            (⟨world, .run caller (action :: rest), stack⟩ : ClockMachine).site :=
          congrArg (Site.mk · _) (plan_finish hplan).1
        exact hsite ▸ h.timers
      · rintro _ _ hrun a ha
        cases hrun
        exact h.control caller (action :: rest) rfl a (List.mem_cons_of_mem _ ha)
  | @asked world caller action request watched rest stack hplan =>
      refine .settle (hserve _ rfl) h.frames
        (fun a ha => h.control caller (action :: rest) rfl a (List.mem_cons_of_mem _ ha)) ?_
      intro firing u hinvoke
      rcases plan_ask hplan with ⟨_, _, _, _, _, _, rfl, _⟩ | ⟨_, _, _, _, _, _, rfl, _⟩ |
        ⟨drain, _, rfl, _⟩
      · cases hinvoke
      · cases hinvoke
      · exact ((VirtualClock.spends_drain limit drain world.provider).invoked firing u hinvoke).1
  | @ended world control frame stack ended =>
      refine .settle ?_ (fun other hother => h.frames other (List.mem_cons_of_mem _ hother))
        (h.frames frame List.mem_cons_self) ?_
      · cases ended <;> exact hserve _ rfl
      · have hframe : frame.2.timer.Still :=
          h.timers _ (VirtualClock.mem_held.mpr (Or.inr ⟨frame.2, List.mem_cons_self, rfl⟩))
        exact fun firing u hinvoke =>
          ((VirtualClock.spends_resume hframe ended world.provider).invoked firing u hinvoke).1

theorem load (h : m.Still) {action : Action TimerId} (haction : action.still = true) :
    Still (Machine.load m.world [action]) where
  timers t ht := by
    rcases VirtualClock.mem_held.mp ht with hqueue | ⟨u, hu, -⟩
    · exact h.timers t (VirtualClock.mem_held.mpr (Or.inl hqueue))
    · exact absurd hu List.not_mem_nil
  frames _ hframe := absurd hframe List.not_mem_nil
  control _ _ hcontrol a ha := by
    cases hcontrol
    rw [List.mem_singleton.mp ha]
    exact haction

/-- Every step pays. -/
theorem pays (h : m.Still) (hrunning : m.ended? = none)
    (hcourse : Course (VirtualClock.provider limit) m c m') : Pays limit m m' := by
  cases hcourse with
  | stays => cases hrunning
  | halts world control ended =>
      refine .of_work rfl (Nat.add_le_add_right (Nat.zero_le _) _) rfl ?_
      cases control with
      | halt => cases hrunning
      | run | unwind => simp [work, Control.work]
  | throws rest stack hplan =>
      refine .of_work rfl ?_ rfl (Nat.add_lt_add_right (by simp [Control.work]) _)
      exact Nat.add_le_add_right (Nat.add_le_add_right (Nat.zero_le _) _) _
  | @did world world' caller action result rest stack hplan =>
      obtain ⟨hprovider, hlog⟩ := plan_finish hplan
      refine .of_work ?_ ?_ rfl (Nat.add_lt_add_right (by simp [Control.work]) _)
      · rw [startCount, World.record, hlog]
        rfl
      · rw [drainsWritten, World.record_provider, hprovider]
        exact Nat.add_le_add_right (Nat.add_le_add_right (Nat.le_add_left _ _) _) _
  | @asked world caller action request watched rest stack hplan =>
      rcases plan_ask hplan with ⟨route, kind, delay, name, handler, rfl, rfl, -⟩ |
        ⟨_, kind, _, id, rfl, _, rfl, _⟩ | ⟨drain, rfl, rfl, -⟩
      · exact pays_call ⟨Nat.le_of_eq (VirtualClock.drainsWaiting_schedule kind handler delay),
          fun _ _ hinvoke => by cases hinvoke⟩
      · exact pays_call ⟨Nat.le_add_left_of_le (VirtualClock.drainsWaiting_cancel id),
          fun _ _ hinvoke => by cases hinvoke⟩
      · -- the drain that was written is worth the turns that it has left now
        refine pays_settle (VirtualClock.spends_drain limit drain world.provider) rfl ?_
          (work_call world caller (.drain drain) rest stack)
        simp only [owed, drainsWritten, turnsLeft, Control.drainCount, drainsOf, Action.drainCount]
        rw [Nat.add_assoc 1, Nat.add_assoc 1, Nat.add_comm 1, Nat.mul_succ]
        omega
  | @ended world control frame stack ended =>
      have hframe : frame.2.timer.Still :=
        h.timers _ (VirtualClock.mem_held.mpr (Or.inr ⟨frame.2, List.mem_cons_self, rfl⟩))
      refine pays_settle (VirtualClock.spends_resume hframe ended world.provider) rfl
        (Nat.add_le_add (Nat.mul_le_mul_left _ ?_) ?_) ?_
      · simp only [drainsWritten, List.map_cons, List.sum_cons]
        omega
      · exact Nat.le_refl _
      · simp only [work, List.map_cons, List.sum_cons]
        omega

end Still

end Machine

end PageTimers
