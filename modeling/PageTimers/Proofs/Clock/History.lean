/-
# What a virtual clock goes through

A clock and its running callbacks move in *beats*, one for each thing that
can happen:

    schedule   a timer is put into the queue
    cancel     an identifier is cleared
    start      a drain takes the next timer out and starts its callback
    reach      a drain has nothing left to run
    finish     the innermost callback returns
    abandon    the innermost callback throws

`Beat` is the whole of what can happen: every invariant of the clock is
proved by cases on it, and every statement about histories by induction on
`Beats`.  `nests` says whether a drain may go on while a callback runs.

A request that drains, or a callback that returns into its drain, may come
to two beats in one step; `serve_beats` takes them apart.
-/
import Mathlib.Data.List.Induction
import PageTimers.Proofs.Clock.Queue
import PageTimers.Proofs.Program.Contact

namespace PageTimers

/-- Something that happens at a clock. -/
inductive Happening (α : Type)
  | scheduled (id : TimerId)
  | cleared (id : TimerId) (found : Bool)
  /-- A callback is started, when the clock shows `now`. -/
  | started (timer : QueuedTimer α) (now : Nat)
  | returned (timer : QueuedTimer α)
  | threw (timer : QueuedTimer α)
  /-- A drain has run all that it was to run. -/
  | reached (now : Nat)

/-- The timer whose callback is started, and what the clock shows then. -/
def Happening.fired? {α : Type} : Happening α → Option (QueuedTimer α × Nat)
  | started timer now => some (timer, now)
  | _ => none

/-- The callback that is started, as the log has it. -/
def Happening.start? {α : Type} (h : Happening α) : Option (Firing TimerId α × Nat) :=
  h.fired?.map fun s => (s.1.firing, s.2)

/-- The timers whose callbacks were started, in order. -/
def firings {α : Type} (history : List (Happening α)) : List (QueuedTimer α × Nat) :=
  history.filterMap Happening.fired?

theorem firings_append {α : Type} (before after : List (Happening α)) :
    firings (before ++ after) = firings before ++ firings after :=
  List.filterMap_append

namespace VirtualClock

variable {α : Type}

/-- A deadline that a clock can show. -/
def Goal.InTime : Goal → Prop
  | advance _ target => target ≤ Duration.lastInstant
  | runDue _ => True
  | flush => True

theorem Goal.of_inTime {drain : Drain} {now : Nat} {goal : Goal} (h : Goal.of drain now = .ok goal) :
    goal.InTime := by
  cases drain with
  | advance span =>
      simp only [Goal.of] at h
      split at h
      · next hlt =>
        cases h
        exact Nat.le_sub_one_of_lt hlt
      · cases h
  | runDue => cases h; trivial
  | flush => cases h; trivial

/-! ## Beats -/

/-- A clock with the drains that wait for a callback. -/
abbrev Place (α : Type) := Site (VirtualClock α) (UnderWay α)

inductive Beat (nests : Prop) : Place α → Happening α → Place α → Prop
  | schedule {clock : VirtualClock α} {us : List (UnderWay α)} (kind : TimerKind) (callback : α)
      (delay : Duration) :
      Beat nests ⟨clock, us⟩ (.scheduled ⟨clock.lastId + 1⟩)
        ⟨(clock.schedule kind callback delay).2, us⟩
  | cancel {clock : VirtualClock α} {us : List (UnderWay α)} (id : TimerId) :
      Beat nests ⟨clock, us⟩ (.cleared id (clock.cancel id).1) ⟨(clock.cancel id).2, us⟩
  | start {clock : VirtualClock α} {us : List (UnderWay α)} {goal : Goal} {left ran : Nat}
      {timer : QueuedTimer α} :
      clock.next? goal.deadline = some timer → goal.InTime → us = [] ∨ nests →
      Beat nests ⟨clock, us⟩ (.started timer (clock.start timer).now)
        ⟨clock.start timer, ⟨goal, left, ran, timer⟩ :: us⟩
  | reach {clock : VirtualClock α} {us : List (UnderWay α)} {goal : Goal} :
      clock.next? goal.deadline = none → goal.InTime → us = [] ∨ nests →
      Beat nests ⟨clock, us⟩ (.reached (clock.reach goal).now) ⟨clock.reach goal, us⟩
  | finish {clock : VirtualClock α} {u : UnderWay α} {us : List (UnderWay α)} :
      Beat nests ⟨clock, u :: us⟩ (.returned u.timer) ⟨clock.finish u.timer, us⟩
  | abandon {clock : VirtualClock α} {u : UnderWay α} {us : List (UnderWay α)} :
      Beat nests ⟨clock, u :: us⟩ (.threw u.timer) ⟨clock.rest, us⟩

/-- Beat after beat, with all that happened, in order. -/
inductive Beats (nests : Prop) : Place α → List (Happening α) → Place α → Prop
  | refl (p : Place α) : Beats nests p [] p
  | snoc {p q r : Place α} {history : List (Happening α)} {h : Happening α} :
      Beats nests p history q → Beat nests q h r → Beats nests p (history ++ [h]) r

section Beats

variable {nests : Prop} {p q r : Place α}

theorem Beats.single {h : Happening α} (b : Beat nests p h q) : Beats nests p [h] q :=
  .snoc (.refl p) b

theorem Beats.append {first second : List (Happening α)} (hpq : Beats nests p first q)
    (hqr : Beats nests q second r) : Beats nests p (first ++ second) r := by
  induction hqr with
  | refl => rwa [List.append_nil]
  | snoc _ b ih =>
      rw [← List.append_assoc]
      exact .snoc ih b

theorem Beats.nil_inv (h : Beats nests p [] q) : q = p := by
  generalize hnil : ([] : List (Happening α)) = none at h
  cases h with
  | refl => rfl
  | snoc _ _ => exact absurd hnil.symm (List.append_ne_nil_of_right_ne_nil _ (List.cons_ne_nil _ _))

theorem Beats.snoc_inv {history : List (Happening α)} {x : Happening α}
    (h : Beats nests p (history ++ [x]) r) : ∃ q, Beats nests p history q ∧ Beat nests q x r := by
  generalize hall : history ++ [x] = all at h
  cases h with
  | refl => exact absurd hall (List.append_ne_nil_of_right_ne_nil _ (List.cons_ne_nil _ _))
  | snoc hbefore b =>
      obtain ⟨rfl, hx⟩ := List.append_inj' hall rfl
      cases hx
      exact ⟨_, hbefore, b⟩

/-- A history can be cut anywhere. -/
theorem Beats.split {first : List (Happening α)} :
    ∀ {second : List (Happening α)} {r : Place α}, Beats nests p (first ++ second) r →
      ∃ q, Beats nests p first q ∧ Beats nests q second r := by
  intro second
  induction second using List.reverseRecOn with
  | nil =>
      intro r h
      rw [List.append_nil] at h
      exact ⟨r, h, .refl r⟩
  | append_singleton second x ih =>
      intro r h
      rw [← List.append_assoc] at h
      obtain ⟨q, hbefore, b⟩ := h.snoc_inv
      obtain ⟨mid, hfirst, hsecond⟩ := ih hbefore
      exact ⟨mid, hfirst, .snoc hsecond b⟩

theorem Beats.cons_inv {x : Happening α} {rest : List (Happening α)}
    (h : Beats nests p (x :: rest) r) : ∃ q, Beat nests p x q ∧ Beats nests q rest r := by
  have h : Beats nests p ([x] ++ rest) r := h
  obtain ⟨q, hfirst, hrest⟩ := h.split
  have hfirst : Beats nests p ([] ++ [x]) q := hfirst
  obtain ⟨p', hnil, b⟩ := hfirst.snoc_inv
  exact ⟨q, hnil.nil_inv ▸ b, hrest⟩

/-- An invariant of beats holds along them. -/
theorem Beats.invariant {I : Place α → Prop} (hbeat : ∀ p h q, I p → Beat nests p h q → I q)
    {history : List (Happening α)} (h : Beats nests p history q) (hp : I p) : I q := by
  induction h with
  | refl => exact hp
  | snoc _ b ih => exact hbeat _ _ _ ih b

end Beats

/-! ## Serving contacts -/

/-- What happens in a move that continues a drain. -/
def drainHappenings (move : Move (VirtualClock α) (UnderWay α) TimerId α) : List (Happening α) :=
  match move.outcome with
  | .invoke _ drain => [.started drain.timer move.state.now]
  | .answer (.ok (.ran _)) => [.reached move.state.now]
  | .answer _ => []
  | .rethrow => []

/-- What happens when a clock serves a contact. -/
def happenings (limit : Nat) : Contact TimerId α → Place α → List (Happening α)
  | .ask (.schedule kind callback delay), p => [.scheduled (p.state.schedule kind callback delay).1]
  | .ask (.clear _ id), p => [.cleared id (p.state.cancel id).1]
  | .ask (.drain drain), p => drainHappenings (ask limit (.drain drain) p.state)
  | .ended .returned, ⟨clock, u :: _⟩ =>
    .returned u.timer :: drainHappenings (resume u .returned clock)
  | .ended .thrown, ⟨_, u :: _⟩ => [.threw u.timer]
  | .ended _, ⟨_, []⟩ => []

/-- No drain goes on while another callback runs, and none is begun while a
callback runs. -/
def Calm (c : Contact TimerId α) (p : Place α) : Prop :=
  p.suspended.length ≤ 1 ∧ ∀ drain, c = .ask (.drain drain) → p.suspended = []

variable {nests : Prop}

theorem proceed_beats {goal : Goal} (left ran : Nat) {clock : VirtualClock α}
    {us : List (UnderWay α)} (hgoal : goal.InTime) (hus : us = [] ∨ nests) :
    Beats nests ⟨clock, us⟩ (drainHappenings (proceed goal left ran clock))
      ((proceed goal left ran clock).land us) := by
  unfold proceed
  cases hnext : clock.next? goal.deadline with
  | none => exact .single (.reach hnext hgoal hus)
  | some timer =>
      cases left with
      | zero => exact .refl _
      | succ left => exact .single (.start hnext hgoal hus)

/-- All drains that wait have deadlines that a clock can show. -/
def Place.InTime (p : Place α) : Prop := ∀ u ∈ p.suspended, u.goal.InTime

theorem Place.InTime.beat {p q : Place α} {h : Happening α} (hp : InTime p)
    (b : Beat nests p h q) : InTime q := by
  cases b with
  | schedule | cancel | reach => exact hp
  | start _ hgoal _ =>
      intro u hu
      rcases List.mem_cons.mp hu with rfl | hu
      · exact hgoal
      · exact hp u hu
  | finish | abandon => exact fun u hu => hp u (List.mem_cons_of_mem _ hu)

/-- Serving a contact is a matter of beats. -/
theorem serve_beats (limit : Nat) {c : Contact TimerId α} {p : Place α} (hp : p.InTime)
    (hcalm : Calm c p ∨ nests) :
    Beats nests p (happenings limit c p) ((provider limit).serve c p) := by
  obtain ⟨clock, us⟩ := p
  cases c with
  | ask request =>
      cases request with
      | schedule kind callback delay => exact .single (.schedule kind callback delay)
      | clear kind id => exact .single (.cancel id)
      | drain drain =>
          simp only [happenings, Provider.serve, provider, ask]
          cases hgoal : Goal.of drain clock.now with
          | error e => exact .refl _
          | ok goal =>
              exact proceed_beats _ 0 (Goal.of_inTime hgoal) (hcalm.imp_left fun h => h.2 drain rfl)
  | ended ended =>
      cases us with
      | nil => cases ended <;> exact .refl _
      | cons u us =>
          cases ended with
          | returned =>
              have hus : us = [] ∨ nests := hcalm.imp_left fun h =>
                List.length_eq_zero_iff.mp (Nat.le_zero.mp (Nat.le_of_succ_le_succ h.1))
              exact Beats.append (.single .finish)
                (proceed_beats u.left u.ran (hp u List.mem_cons_self) hus)
          | thrown => exact .single .abandon

end VirtualClock

/-! ## Sessions on a virtual clock -/

/-- A page whose timers a virtual clock runs, and what is around it. -/
abbrev ClockWorld := World (VirtualClock (Handler TimerId)) TimerId

/-- The machine of a page whose timers a virtual clock runs. -/
abbrev ClockMachine :=
  Machine (VirtualClock (Handler TimerId)) (VirtualClock.UnderWay (Handler TimerId)) TimerId

namespace ClockMachine

variable (limit : Nat)

/-- What happens at the clock when this reaches it, if anything does. -/
def happeningsOn (c : Option (Contact TimerId (Handler TimerId))) (m : ClockMachine) :
    List (Happening (Handler TimerId)) :=
  match c with
  | none => []
  | some c => VirtualClock.happenings limit c m.site

/-- What happens at the clock in the next step, in order. -/
def happenings (m : ClockMachine) : List (Happening (Handler TimerId)) :=
  happeningsOn limit (Machine.contact? (VirtualClock.provider limit) m) m

/-- A step of the machine is a matter of beats, too. -/
theorem beats_of_course {nests : Prop} {c : Option (Contact TimerId (Handler TimerId))}
    {m m' : ClockMachine} (h : Machine.Course (VirtualClock.provider limit) m c m')
    (hp : VirtualClock.Place.InTime m.site)
    (hcalm : (∀ contact, c = some contact → VirtualClock.Calm contact m.site) ∨ nests) :
    VirtualClock.Beats nests m.site (happeningsOn limit c m) m'.site := by
  rw [h.site]
  cases c with
  | none => exact .refl _
  | some contact => exact VirtualClock.serve_beats limit hp (hcalm.imp_left fun h => h contact rfl)

end ClockMachine

/-- A harness on a page whose timers a virtual clock runs. -/
abbrev ClockSession :=
  Session (VirtualClock (Handler TimerId)) (VirtualClock.UnderWay (Handler TimerId)) TimerId

namespace ClockSession

/-- A harness on a page with a fresh clock. -/
def fresh (globals : Globals) (actions : List (Action TimerId)) : ClockSession :=
  Session.start (World.start .fresh globals) actions

/-- The session after a number of steps; a drain may run `limit` callbacks. -/
def after (limit : Nat) (s : ClockSession) (steps : Nat) : ClockSession :=
  Session.after (VirtualClock.provider limit) s steps

def clock (s : ClockSession) : VirtualClock (Handler TimerId) := s.machine.world.provider

/-- The timers whose callbacks are under way, the innermost first. -/
def underWay (s : ClockSession) : List (QueuedTimer (Handler TimerId)) :=
  s.machine.stack.map (·.2.timer)

/-- What reaches the clock in the next step, if anything does. -/
def contact? (limit : Nat) (s : ClockSession) : Option (Contact TimerId (Handler TimerId)) :=
  Session.contact? (VirtualClock.provider limit) s

/-- What happens at the clock in the next step, in order. -/
def happenings (limit : Nat) (s : ClockSession) : List (Happening (Handler TimerId)) :=
  ClockMachine.happenings limit s.machine

/-- What happens at the clock in a number of steps, in order. -/
def history (limit : Nat) (s : ClockSession) : (steps : Nat) → List (Happening (Handler TimerId))
  | 0 => []
  | n + 1 => s.history limit n ++ (s.after limit n).happenings limit

/-- What reaches the clock is what happens at it next. -/
theorem happenings_of_contact {limit : Nat} {s : ClockSession}
    {c : Contact TimerId (Handler TimerId)} (hc : s.contact? limit = some c) :
    s.happenings limit = VirtualClock.happenings limit c (Session.site s) := by
  have hc : Machine.contact? (VirtualClock.provider limit) s.machine = some c := hc
  rw [happenings, ClockMachine.happenings, hc]
  rfl

variable (limit : Nat)

theorem history_add (s : ClockSession) (n : Nat) :
    ∀ k : Nat, s.history limit (n + k) = s.history limit n ++ (s.after limit n).history limit k
  | 0 => (List.append_nil _).symm
  | k + 1 => by
      have hafter : s.after limit (n + k) = (s.after limit n).after limit k :=
        Session.after_add s n k
      show s.history limit (n + k) ++ (s.after limit (n + k)).happenings limit = _
      rw [history_add s n k, List.append_assoc, hafter]
      rfl

/-- A step of a session is a matter of beats, too. -/
theorem step_beats {nests : Prop} {s : ClockSession} (hs : s.machine.Settled)
    (hp : VirtualClock.Place.InTime (Session.site s))
    (hcalm : (∀ c, s.contact? limit = some c → VirtualClock.Calm c (Session.site s)) ∨ nests) :
    VirtualClock.Beats nests (Session.site s) (s.happenings limit)
      (Session.site (Session.step (VirtualClock.provider limit) s)) := by
  have hcourse := s.machine.course_step (P := VirtualClock.provider limit)
  have hbeats := ClockMachine.beats_of_course limit hcourse hp hcalm
  rw [hcourse.site] at hbeats
  rw [Session.site_step hs]
  exact hbeats

/-- The history of a session leads from where the clock stands to where it
stands then. -/
theorem beats_from {nests : Prop} {s : ClockSession} (hs : s.machine.Settled)
    (hp : VirtualClock.Place.InTime (Session.site s)) (n : Nat)
    (hcalm : (∀ k < n, ∀ c, (s.after limit k).contact? limit = some c →
      VirtualClock.Calm c (Session.site (s.after limit k))) ∨ nests) :
    VirtualClock.Beats nests (Session.site s) (s.history limit n)
      (Session.site (s.after limit n)) := by
  induction n with
  | zero => exact .refl _
  | succ n ih =>
      have hbeats := ih (hcalm.imp_left fun h k hk => h k (Nat.lt_succ_of_lt hk))
      refine hbeats.append (step_beats limit (Session.settled_after hs n) ?_
        (hcalm.imp_left fun h => h n (Nat.lt_succ_self n)))
      exact hbeats.invariant (fun _ _ _ hp b => hp.beat b) hp

theorem beats_after {nests : Prop} (globals : Globals) (actions : List (Action TimerId)) (n : Nat)
    (hcalm : (∀ k < n, ∀ c, ((fresh globals actions).after limit k).contact? limit = some c →
      VirtualClock.Calm c (Session.site ((fresh globals actions).after limit k))) ∨ nests) :
    VirtualClock.Beats nests ⟨.fresh, []⟩ ((fresh globals actions).history limit n)
      (Session.site ((fresh globals actions).after limit n)) :=
  beats_from limit (Session.settled_start _ _) (fun _ hu => absurd hu List.not_mem_nil) n hcalm

/-! ### The log

The log keeps the callbacks that were started, with what the clock showed;
it agrees with the history. -/

theorem starts_of_drain {move : Move (VirtualClock (Handler TimerId))
      (VirtualClock.UnderWay (Handler TimerId)) TimerId (Handler TimerId)}
    (h : ∀ firing u, move.outcome = .invoke firing u → firing = u.timer.firing) :
    (VirtualClock.drainHappenings move).filterMap Happening.start? =
      ((VirtualClock.provider limit).startedBy? move).toList := by
  unfold VirtualClock.drainHappenings Provider.startedBy?
  cases hm : move.outcome with
  | answer result =>
      match result with
      | .ok (.ran _) | .ok (.scheduled _) | .ok (.cleared _) | .error _ => rfl
  | invoke firing u => rw [h firing u hm]; rfl
  | rethrow => rfl

theorem firing_of_proceed {goal : VirtualClock.Goal} {left ran : Nat}
    {clock : VirtualClock (Handler TimerId)} {firing : Firing TimerId (Handler TimerId)}
    {u : VirtualClock.UnderWay (Handler TimerId)}
    (h : (VirtualClock.proceed goal left ran clock).outcome = .invoke firing u) :
    firing = u.timer.firing := by
  unfold VirtualClock.proceed at h
  split at h
  · cases h
  · split at h
    · cases h
    · cases h; rfl

theorem happenings_starts (c : Contact TimerId (Handler TimerId))
    (p : VirtualClock.Place (Handler TimerId)) :
    (VirtualClock.happenings limit c p).filterMap Happening.start? =
      ((VirtualClock.provider limit).started? c p).toList := by
  obtain ⟨clock, us⟩ := p
  cases c with
  | ask request =>
      cases request with
      | schedule | clear => rfl
      | drain drain =>
          refine starts_of_drain limit fun firing u h => ?_
          simp only [VirtualClock.ask] at h
          split at h
          · cases h
          · exact firing_of_proceed h
  | ended ended =>
      cases us with
      | nil => cases ended <;> rfl
      | cons u us =>
          cases ended with
          | returned => exact starts_of_drain limit fun firing u h => firing_of_proceed h
          | thrown => rfl

/-- The callbacks started in the history are those in the log, in order. -/
theorem log_starts (globals : Globals) (actions : List (Action TimerId)) (n : Nat) :
    (((fresh globals actions).after limit n).machine.world.log.filterMap Entry.start?).reverse =
      ((fresh globals actions).history limit n).filterMap Happening.start? := by
  induction n with
  | zero => rfl
  | succ n ih =>
      have hstep : ((fresh globals actions).after limit (n + 1)).machine.world.log.filterMap
          Entry.start? = _ := Session.starts_step ((fresh globals actions).after limit n)
      rw [hstep, List.reverse_append, ih, history, List.filterMap_append, happenings,
        ClockMachine.happenings, Session.contact?]
      congr 1
      cases Machine.contact? (VirtualClock.provider limit)
          ((fresh globals actions).after limit n).machine with
      | none => rfl
      | some c =>
          refine Eq.trans ?_ (happenings_starts limit c _).symm
          show ((VirtualClock.provider limit).started? c
            ((fresh globals actions).after limit n).machine.site).toList.reverse = _
          cases (VirtualClock.provider limit).started? c
            ((fresh globals actions).after limit n).machine.site <;> rfl

end ClockSession

end PageTimers
