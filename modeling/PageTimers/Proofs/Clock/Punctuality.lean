/-
# The clock keeps time

A run of a clock is a list of contacts, whatever its callbacks do: they may
drain, to any depth, and throw, and drains may fail.  In all of them

    the clock      does not run back, and no timer is started before its time
    a drain        starts itself only what is due by its deadline, and leaves
                   nothing that is when it comes back well
    an advance     is refused exactly where its target is past the last
                   instant, and comes back at its target or later

A drain is not the only one to move the clock while it is under way.  A
callback that drains may take it past the deadline of the drain that runs the
callback, and a repeating timer is then put back into the past.  So "the clock
is not past the deadline" holds as long as no callback drains, and is kept
apart (`Beneath.ahead`); what always holds is that the drain waits, with its
goal, beneath whatever comes (`Beneath.waits`).

Every run of a program is such a run (`Session.site_after`), and a request of
its machine that waits for an answer is one that waits at the clock
(`Session.Awaits.during`, `Session.Answered.returns`).  So all of it is known of
programs, by what their logs say (`ClockSession.Punctual`).
-/
import PageTimers.Proofs.Clock.Cadence

namespace PageTimers

/-! ## What goes on while a request waits -/

namespace Provider

variable {σ κ ι α : Type}

/-- What comes of the request that a contact is about: the one that is made,
or the innermost of those that wait. -/
def outcome? (P : Provider σ κ ι α) : Contact ι α → Site σ κ → Option (Outcome κ ι α)
  | .ask request, site => some (P.ask request site.state).outcome
  | .ended ended, ⟨state, k :: _⟩ => some (P.resume k ended state).outcome
  | .ended _, ⟨_, []⟩ => none

/-- `c`, served at `q`, is part of what goes on from a request that is made at
`p` until nothing waits any more but what waited at `p`.  The list has the
contacts since the request, with `c` as the last. -/
inductive During (P : Provider σ κ ι α) (request : Request ι α) (p : Site σ κ) :
    List (Contact ι α) → Contact ι α → Site σ κ → Prop
  | asked : During P request p [] (.ask request) p
  | later {inner : List (Contact ι α)} {c : Contact ι α} {q : Site σ κ} (next : Contact ι α) :
      During P request p inner c q → p.suspended.length < (P.serve c q).suspended.length →
      During P request p (inner ++ [next]) next (P.serve c q)

/-- A request that was made at `p` is answered, and the provider stands at the
last place then. -/
inductive Returns (P : Provider σ κ ι α) (request : Request ι α) (p : Site σ κ)
    (inner : List (Contact ι α)) (result : Except TimerError (Answer ι)) : Site σ κ → Prop
  | answer {c : Contact ι α} {q : Site σ κ} :
      P.During request p inner c q → P.outcome? c q = some (.answer result) →
      (P.serve c q).suspended.length = p.suspended.length →
      Returns P request p inner result (P.serve c q)

end Provider

/-! ### In a session -/

namespace Machine

variable {σ κ ι : Type} [DecidableEq ι] [Identifier ι] {P : Provider σ κ ι (Handler ι)}
  {caller : Caller ι} {action : Action ι} {result : Except TimerError (Answer ι)}

omit [Identifier ι] in
theorem outcome_of_log {world : World σ ι} {w : Waiting κ ι} {stack : List (Waiting κ ι × κ)}
    {move : Move σ κ ι (Handler ι)} (hlog : (settle P world w stack move).world.log =
      .did caller action (.answered result) :: world.log) : move.outcome = .answer result := by
  unfold settle at hlog
  cases hmove : move.outcome with
  | answer given =>
      simp only [hmove, answered_log, World.journaled_log] at hlog
      cases hlog
      rfl
  | invoke firing suspended =>
      simp only [hmove] at hlog
      cases hlog
  | rethrow =>
      simp only [hmove] at hlog
      exact absurd hlog.symm (List.cons_ne_self _ _)

/-- An answer in the log is one that the provider has given. -/
theorem Course.outcome_of_log {m m' : Machine σ κ ι} {c : Option (Contact ι (Handler ι))}
    (h : Course P m c m') (hlog : m'.world.log =
      .did caller action (.answered result) :: m.world.log) :
    ∃ contact, c = some contact ∧ P.outcome? contact m.site = some (.answer result) := by
  cases h with
  | stays | halts | throws => exact absurd hlog.symm (List.cons_ne_self _ _)
  | did rest stack hplan =>
      cases (List.cons.inj hlog).1
      exact absurd rfl (plan_finish_result hplan result)
  | asked => exact ⟨_, rfl, congrArg some (Machine.outcome_of_log hlog)⟩
  | ended => exact ⟨_, rfl, congrArg some (Machine.outcome_of_log hlog)⟩

end Machine

namespace Session

variable {σ κ ι : Type} [DecidableEq ι] [Identifier ι] {P : Provider σ κ ι (Handler ι)}
  {s : Session σ κ ι} {request : Request ι (Handler ι)} {steps : Nat}
  {result : Except TimerError (Answer ι)}

/-- The request that a session makes in its next step has not been answered so
many steps after that. -/
structure Awaits (P : Provider σ κ ι (Handler ι)) (s : Session σ κ ι)
    (request : Request ι (Handler ι)) (steps : Nat) : Prop where
  asks : s.contact? P = some (.ask request)
  /-- Its action waits, beneath those of callbacks. -/
  waits : ∀ k < steps, s.machine.stack.length < (s.after P (k + 1)).machine.stack.length

/-- The request that a session makes in its next step is answered so many steps
after that. -/
structure Answered (P : Provider σ κ ι (Handler ι)) (s : Session σ κ ι)
    (request : Request ι (Handler ι)) (steps : Nat) (result : Except TimerError (Answer ι)) :
    Prop extends Awaits P s request steps where
  back : (s.after P (steps + 1)).machine.stack.length = s.machine.stack.length
  told : ∃ caller action, (s.after P (steps + 1)).machine.world.log =
    .did caller action (.answered result) :: (s.after P steps).machine.world.log

omit [DecidableEq ι] [Identifier ι] in
/-- As many requests are suspended as actions wait. -/
theorem length_suspended (s : Session σ κ ι) :
    s.site.suspended.length = s.machine.stack.length :=
  List.length_map _

theorem Awaits.of_le (h : s.Awaits P request steps) {fewer : Nat} (hle : fewer ≤ steps) :
    s.Awaits P request fewer where
  asks := h.asks
  waits k hk := h.waits k (Nat.lt_of_lt_of_le hk hle)

/-- What reaches the provider while a request waits is part of what goes on from
it. -/
theorem Awaits.during (hs : s.machine.Settled) (h : s.Awaits P request steps) :
    ∃ c q, P.During request s.site ((s.step P).contacts P steps) c q ∧
      P.serve c q = (s.after P (steps + 1)).site ∧
      ∀ next, (s.after P steps).contact? P = some next → next = c ∧ (s.after P steps).site = q := by
  induction steps with
  | zero =>
      refine ⟨_, _, .asked, (site_of_contact h.asks).symm, ?_⟩
      intro next hnext
      exact ⟨Option.some.inj (hnext.symm.trans h.asks), rfl⟩
  | succ steps ih =>
      obtain ⟨c, q, hduring, hserve, -⟩ := ih (h.of_le (Nat.le_succ steps))
      have hstep : (s.after P (steps + 2)).site = _ := site_step (settled_after hs (steps + 1))
      rw [contacts, ← after_succ']
      cases hnext : (s.after P (steps + 1)).contact? P with
      | none =>
          rw [hnext] at hstep
          refine ⟨c, q, ?_, hserve.trans hstep.symm, ?_⟩
          · rw [Option.toList_none, List.append_nil]
            exact hduring
          · intro next hnext
            cases hnext
      | some next =>
          rw [hnext] at hstep
          refine ⟨next, (s.after P (steps + 1)).site, ?_, hstep.symm, ?_⟩
          · rw [← hserve]
            refine hduring.later next ?_
            rw [hserve, length_suspended, length_suspended]
            exact h.waits steps (Nat.lt_succ_self steps)
          · intro other hother
            exact ⟨(Option.some.inj hother).symm, rfl⟩

theorem outcome_of_log {caller : Caller ι} {action : Action ι}
    (hlog : (s.step P).machine.world.log =
      .did caller action (.answered result) :: s.machine.world.log) :
    ∃ c, s.contact? P = some c ∧ P.outcome? c s.site = some (.answer result) := by
  cases hended : s.machine.ended? with
  | none =>
      rw [step_of_running hended] at hlog
      exact s.machine.course_step.outcome_of_log hlog
  | some ended =>
      -- the harness goes on, or is done; it logs neither
      have hsome : s.machine.ended?.isSome := by rw [hended]; rfl
      cases hcoming : s.coming with
      | nil =>
          rw [step_of_over hsome hcoming] at hlog
          exact absurd hlog.symm (List.cons_ne_self _ _)
      | cons next rest =>
          rw [step_of_next hsome hcoming] at hlog
          exact absurd hlog.symm (List.cons_ne_self _ _)

/-- And when it is answered in the log, the provider has answered it. -/
theorem Answered.returns (hs : s.machine.Settled) (h : s.Answered P request steps result) :
    P.Returns request s.site ((s.step P).contacts P steps) result (s.after P (steps + 1)).site := by
  obtain ⟨caller, action, hlog⟩ := h.told
  obtain ⟨next, hnext, hanswer⟩ := outcome_of_log hlog
  obtain ⟨c, q, hduring, hserve, hlast⟩ := h.toAwaits.during hs
  obtain ⟨rfl, rfl⟩ := hlast next hnext
  rw [← hserve]
  refine .answer hduring hanswer ?_
  rw [hserve, length_suspended, length_suspended]
  exact h.back

end Session

/-- None of these drains. -/
def Undrained {ι α : Type} (contacts : List (Contact ι α)) : Prop :=
  ∀ drain, .ask (.drain drain) ∉ contacts

/-- The time by which a timer has to be due for a drain to run it, if the drain
is asked for at `now`. -/
def Drain.deadline (now : Nat) : Drain → Option Nat
  | advance span => some (now + span.millis)
  | runDue => some now
  | flush => none

namespace VirtualClock

variable {α : Type} {limit : Nat} {nests : Prop} {p q : Place α}

/-! ## Time does not run back -/

theorem now_le_beat {x : Happening α} (b : Beat nests p x q) : p.state.now ≤ q.state.now := by
  cases b with
  | schedule | cancel | abandon => exact Nat.le_refl _
  | start => exact Nat.le_max_left _ _
  | reach => exact now_le_reach _ _
  | finish => exact Nat.le_of_eq (finish_now _ _).symm

theorem now_le_beats {history : List (Happening α)} (h : Beats nests p history q) :
    p.state.now ≤ q.state.now :=
  h.invariant (fun _ _ _ hle b => Nat.le_trans hle (now_le_beat b)) (Nat.le_refl _)

theorem beats_serveAll (limit : Nat) (contacts : List (Contact TimerId α)) {p : Place α}
    (hp : Place.InTime p) :
    ∃ history, Beats True p history ((provider limit).serveAll contacts p) := by
  induction contacts generalizing p with
  | nil => exact ⟨[], .refl p⟩
  | cons c contacts ih =>
      have hserve : Beats True p (happenings limit c p) ((provider limit).serve c p) :=
        serve_beats limit hp (Or.inr trivial)
      obtain ⟨history, hbeats⟩ := ih (hserve.invariant (fun _ _ _ hq b => hq.beat b) hp)
      exact ⟨_, hserve.append hbeats⟩

theorem now_le_serveAll (limit : Nat) (hp : Place.InTime p) (contacts : List (Contact TimerId α)) :
    p.state.now ≤ ((provider limit).serveAll contacts p).state.now := by
  obtain ⟨_, hbeats⟩ := beats_serveAll limit contacts hp
  exact now_le_beats hbeats

/-- Wherever contacts take a fresh clock, all drains that wait have deadlines
that it can show. -/
theorem inTime_serveAll (limit : Nat) (contacts : List (Contact TimerId α)) :
    Place.InTime ((provider limit).serveAll contacts ⟨.fresh, []⟩) := by
  have hfresh : Place.InTime (⟨.fresh, []⟩ : Place α) := fun _ hu => absurd hu List.not_mem_nil
  obtain ⟨_, hbeats⟩ := beats_serveAll limit contacts hfresh
  exact hbeats.invariant (fun _ _ _ hp b => hp.beat b) hfresh

/-! ## Starts -/

section Starts

variable {timer : QueuedTimer α} {now : Nat}

/-- A callback that is started is the innermost from then on. -/
theorem land_of_started {move : Move (VirtualClock α) (UnderWay α) TimerId α}
    (us : List (UnderWay α)) (h : .started timer now ∈ drainHappenings move) :
    ∃ u, (move.land us).suspended = u :: us ∧ u.timer = timer ∧ (move.land us).state.now = now := by
  unfold drainHappenings at h
  unfold Move.land
  split at h
  · next u hinvoke =>
    obtain ⟨rfl, rfl⟩ := Happening.started.inj (List.mem_singleton.mp h)
    rw [hinvoke]
    exact ⟨u, rfl, rfl, rfl⟩
  · cases List.mem_singleton.mp h
  · cases h
  · cases h

theorem serve_of_started {c : Contact TimerId α} (h : .started timer now ∈ happenings limit c p) :
    ∃ u us, ((provider limit).serve c p).suspended = u :: us ∧ u.timer = timer ∧
      ((provider limit).serve c p).state.now = now := by
  obtain ⟨clock, us⟩ := p
  cases c with
  | ask request =>
      cases request with
      | schedule | clear => cases List.mem_singleton.mp h
      | drain drain =>
          obtain ⟨u, hu⟩ := land_of_started us h
          exact ⟨u, us, hu⟩
  | ended ended =>
      cases us with
      | nil => cases ended <;> cases h
      | cons v us =>
          cases ended with
          | returned =>
              rcases List.mem_cons.mp h with h | h
              · cases h
              · obtain ⟨u, hu⟩ := land_of_started us h
                exact ⟨u, us, hu⟩
          | thrown => cases List.mem_singleton.mp h

theorem due_of_beat (b : Beat nests p (.started timer now) q) : timer.dueAt ≤ now := by
  cases b with
  | start => exact Nat.le_max_right _ _

theorem due_of_beats {history : List (Happening α)} (h : Beats nests p history q)
    (hstarted : .started timer now ∈ history) : timer.dueAt ≤ now := by
  obtain ⟨before, after, rfl⟩ := List.append_of_mem hstarted
  obtain ⟨_, -, hrest⟩ := h.split
  obtain ⟨_, b, -⟩ := hrest.cons_inv
  exact due_of_beat b

/-- The clock shows the time of the start, and that is when the timer was due or
later. -/
theorem due_of_serve {c : Contact TimerId α} (hp : Place.InTime p)
    (h : .started timer now ∈ happenings limit c p) :
    now = ((provider limit).serve c p).state.now ∧ timer.dueAt ≤ now := by
  obtain ⟨_, _, -, -, hnow⟩ := serve_of_started h
  exact ⟨hnow.symm, due_of_beats (serve_beats limit hp (Or.inr trivial)) h⟩

end Starts

/-! ## The turns of a drain -/

theorem Goal.of_deadline {drain : Drain} {now : Nat} {goal : Goal}
    (h : Goal.of drain now = .ok goal) : goal.deadline = drain.deadline now := by
  cases drain with
  | advance span =>
      simp only [Goal.of] at h
      split at h <;> cases h
      rfl
  | runDue => cases h; rfl
  | flush => cases h; rfl

theorem Goal.of_overflow {span : Duration} {now : Nat} (h : word64 ≤ now + span.millis) :
    Goal.of (.advance span) now = .error (.clockOverflow now span.millis) :=
  if_neg (Nat.not_lt.mpr h)

variable {goal : Goal} {base : List (UnderWay α)} {calm : Prop}

/-- A drain with this goal waits, over what waited when it was asked for and
beneath whatever was asked for since.  As long as all is `calm`, as no callback
drains, that is nothing, and the clock is not past the deadline. -/
structure Beneath (goal : Goal) (base : List (UnderWay α)) (calm : Prop) (p : Place α) : Prop where
  waits : ∃ above u, p.suspended = above ++ u :: base ∧ u.goal = goal ∧
    u.timer.isDue goal.deadline = true ∧ (calm → above = [])
  ahead : calm → goal.Ahead p.state.now

theorem Beneath.mono {calm' : Prop} (h : Beneath goal base calm p) (hcalm : calm' → calm) :
    Beneath goal base calm' p where
  waits := by
    obtain ⟨above, u, hsuspended, hgoal, hdue, halone⟩ := h.waits
    exact ⟨above, u, hsuspended, hgoal, hdue, fun hc => halone (hcalm hc)⟩
  ahead hc := h.ahead (hcalm hc)

theorem beneath_of_proceed {left ran : Nat} {clock : VirtualClock α}
    (hahead : calm → goal.Ahead clock.now)
    (hwaits : base.length < ((proceed goal left ran clock).land base).suspended.length) :
    Beneath goal base calm ((proceed goal left ran clock).land base) := by
  rcases proceed_cases goal left ran clock with
    ⟨-, hmove⟩ | ⟨-, hmove⟩ | ⟨timer, left', hnext, -, hmove⟩
  · rw [hmove] at hwaits
    exact absurd hwaits (Nat.lt_irrefl _)
  · rw [hmove] at hwaits
    exact absurd hwaits (Nat.lt_irrefl _)
  · have hinvoke : (proceed goal left ran clock).outcome =
        .invoke timer.firing ⟨goal, left', ran + 1, timer⟩ := by rw [hmove]
    refine ⟨⟨[], ⟨goal, left', ran + 1, timer⟩, ?_, rfl, (next?_spec hnext).2.1, fun _ => rfl⟩, ?_⟩
    · rw [hmove]
      rfl
    · exact fun hc => ahead_of_proceed (hahead hc) hinvoke

section Undraining

variable {request : Request TimerId α} {clock : VirtualClock α}
  (h : ∀ drain, (.ask request : Contact TimerId α) ≠ .ask (.drain drain))
include h

theorem now_of_undraining : ((provider limit).serve (.ask request) p).state.now = p.state.now := by
  cases request with
  | schedule | clear => rfl
  | drain drain => exact absurd rfl (h drain)

theorem suspended_of_undraining :
    ((provider limit).ask request clock).outcome.suspended? = none := by
  cases request with
  | schedule | clear => rfl
  | drain drain => exact absurd rfl (h drain)

end Undraining

/-- What waits goes on waiting, until nothing is left but what waited before. -/
theorem Beneath.serve {c : Contact TimerId α} (h : Beneath goal base calm p)
    (hcalm : calm → ∀ drain, c ≠ .ask (.drain drain))
    (hwaits : base.length < ((provider limit).serve c p).suspended.length) :
    Beneath goal base calm ((provider limit).serve c p) := by
  obtain ⟨clock, us⟩ := p
  obtain ⟨⟨above, u, hsuspended, hgoal, hdue, halone⟩, hahead⟩ := h
  obtain rfl : us = above ++ u :: base := hsuspended
  cases c with
  | ask request =>
      refine ⟨⟨((provider limit).ask request clock).outcome.suspended?.toList ++ above, u, ?_,
        hgoal, hdue, fun hc => ?_⟩, fun hc => ?_⟩
      · exact (List.append_assoc _ _ _).symm
      · rw [suspended_of_undraining (hcalm hc), halone hc]
        rfl
      · rw [now_of_undraining (hcalm hc)]
        exact hahead hc
  | ended ended =>
      cases above with
      | nil =>
          cases ended with
          | returned =>
              subst hgoal
              refine beneath_of_proceed (fun hc => ?_) hwaits
              rw [finish_now]
              exact hahead hc
          | thrown => exact absurd hwaits (Nat.lt_irrefl _)
      | cons v above =>
          -- the callback is not one of its own, so one of its own has drained
          refine ⟨⟨((provider limit).resume v ended clock).outcome.suspended?.toList ++ above, u,
            ?_, hgoal, hdue, fun hc => ?_⟩, fun hc => ?_⟩
          · exact (List.append_assoc _ _ _).symm
          · cases halone hc
          · cases halone hc

/-- When nothing is left, the drain has taken its last turn. -/
theorem Beneath.last_turn {c : Contact TimerId α} {result : Except TimerError (Answer TimerId)}
    (h : Beneath goal base calm p)
    (hanswer : (provider limit).outcome? c p = some (.answer result))
    (hback : ((provider limit).serve c p).suspended.length = base.length) :
    ∃ left ran clock, (calm → goal.Ahead clock.now) ∧
      (provider limit).serve c p = (proceed goal left ran clock).land base ∧
      (proceed goal left ran clock).outcome = .answer result := by
  obtain ⟨clock, us⟩ := p
  obtain ⟨⟨above, u, hsuspended, rfl, -, -⟩, hahead⟩ := h
  obtain rfl : us = above ++ u :: base := hsuspended
  cases c with
  | ask request =>
      have hlength : (((provider limit).ask request clock).outcome.suspended?.toList ++
          (above ++ u :: base)).length = base.length := hback
      simp only [List.length_append, List.length_cons] at hlength
      omega
  | ended ended =>
      cases above with
      | nil =>
          cases ended with
          | returned =>
              refine ⟨u.left, u.ran, clock.finish u.timer, fun hc => ?_, rfl,
                Option.some.inj hanswer⟩
              rw [finish_now]
              exact hahead hc
          | thrown => cases hanswer
      | cons v above =>
          have hlength : (((provider limit).resume v ended clock).outcome.suspended?.toList ++
              (above ++ u :: base)).length = base.length := hback
          simp only [List.length_append, List.length_cons] at hlength
          omega

section Refused

variable {drain : Drain} {e : TimerError} (hgoal : Goal.of drain p.state.now = .error e)
include hgoal

theorem serve_of_refused : (provider limit).serve (.ask (.drain drain)) p = p := by
  simp only [Provider.serve, provider, ask, hgoal]
  rfl

theorem outcome_of_refused :
    (provider limit).outcome? (.ask (.drain drain)) p = some (.answer (.error e)) := by
  simp only [Provider.outcome?, provider, ask, hgoal]

theorem during_of_refused {inner : List (Contact TimerId α)} {c : Contact TimerId α}
    (h : (provider limit).During (.drain drain) p inner c q) :
    inner = [] ∧ c = .ask (.drain drain) ∧ q = p := by
  induction h with
  | asked => exact ⟨rfl, rfl, rfl⟩
  | later next _ hlt ih =>
      obtain ⟨-, rfl, rfl⟩ := ih
      rw [serve_of_refused hgoal] at hlt
      exact absurd hlt (Nat.lt_irrefl _)

theorem returns_of_refused : (provider limit).Returns (.drain drain) p [] (.error e) p := by
  have hserve : (provider limit).serve (.ask (.drain drain)) p = p := serve_of_refused hgoal
  have hreturns : (provider limit).Returns (.drain drain) p [] (.error e)
      ((provider limit).serve (.ask (.drain drain)) p) :=
    .answer .asked (outcome_of_refused hgoal) (by rw [hserve])
  rwa [hserve] at hreturns

/-- A drain that is refused is over at once, and has changed nothing. -/
theorem refused_of_returns {inner : List (Contact TimerId α)}
    {result : Except TimerError (Answer TimerId)}
    (h : (provider limit).Returns (.drain drain) p inner result q) :
    inner = [] ∧ result = .error e ∧ q = p := by
  cases h with
  | answer hduring hanswer _ =>
      obtain ⟨rfl, rfl, rfl⟩ := during_of_refused hgoal hduring
      rw [outcome_of_refused hgoal] at hanswer
      cases hanswer
      exact ⟨rfl, rfl, serve_of_refused hgoal⟩

end Refused

/-- A drain takes a turn when it is asked for, and each time that a callback
of its own has returned; of each it can be said that it goes on or was the
last. -/
theorem turn_of_during {drain : Drain} {inner : List (Contact TimerId α)} {c : Contact TimerId α}
    (hgoal : Goal.of drain p.state.now = .ok goal)
    (h : (provider limit).During (.drain drain) p inner c q) :
    (p.suspended.length < ((provider limit).serve c q).suspended.length →
      Beneath goal p.suspended (Undrained inner) ((provider limit).serve c q)) ∧
    ∀ result, (provider limit).outcome? c q = some (.answer result) →
      ((provider limit).serve c q).suspended.length = p.suspended.length →
      ∃ left ran clock, (Undrained inner → goal.Ahead clock.now) ∧
        (provider limit).serve c q = (proceed goal left ran clock).land p.suspended ∧
        (proceed goal left ran clock).outcome = .answer result := by
  induction h with
  | asked =>
      have hask : (provider limit).ask (.drain drain) p.state =
          proceed goal (clampLimit limit) 0 p.state := by
        simp only [provider, ask, hgoal]
      have hserve : (provider limit).serve (.ask (.drain drain)) p =
          (proceed goal (clampLimit limit) 0 p.state).land p.suspended :=
        congrArg (·.land p.suspended) hask
      have hahead : goal.Ahead p.state.now := Goal.of_ahead hgoal
      refine ⟨fun hwaits => ?_, fun result hanswer _ => ?_⟩
      · rw [hserve] at hwaits ⊢
        exact beneath_of_proceed (fun _ => hahead) hwaits
      · refine ⟨_, _, _, fun _ => hahead, hserve, ?_⟩
        rw [← hask]
        exact Option.some.inj hanswer
  | @later inner c q next _ hlt ih =>
      have hbeneath : Beneath goal p.suspended (Undrained (inner ++ [next]))
          ((provider limit).serve c q) :=
        (ih.1 hlt).mono fun hcalm drain hmem => hcalm drain (List.mem_append_left _ hmem)
      refine ⟨hbeneath.serve fun hcalm drain hnext => hcalm drain ?_, fun _ => hbeneath.last_turn⟩
      rw [hnext]
      exact List.mem_append_right _ (List.mem_singleton_self _)

/-- When its frame is the innermost, the timer that is started is one that the
drain itself was to start. -/
theorem due_of_started {drain : Drain} {inner : List (Contact TimerId α)} {c : Contact TimerId α}
    {timer : QueuedTimer α} {now : Nat}
    (hduring : (provider limit).During (.drain drain) p inner c q)
    (hstarted : .started timer now ∈ happenings limit c q)
    (hown : ((provider limit).serve c q).suspended.length = p.suspended.length + 1) :
    timer.isDue (drain.deadline p.state.now) = true := by
  have hwaits : p.suspended.length < ((provider limit).serve c q).suspended.length :=
    hown ▸ Nat.lt_succ_self _
  cases hgoal : Goal.of drain p.state.now with
  | error e =>
      obtain ⟨-, rfl, rfl⟩ := during_of_refused hgoal hduring
      rw [serve_of_refused hgoal] at hwaits
      exact absurd hwaits (Nat.lt_irrefl _)
  | ok goal =>
      obtain ⟨above, u, hbeneath, rfl, hdue, -⟩ := ((turn_of_during hgoal hduring).1 hwaits).waits
      obtain ⟨v, us, hinnermost, rfl, -⟩ := serve_of_started hstarted
      obtain rfl : above = [] := by
        rw [hbeneath, List.length_append, List.length_cons] at hown
        exact List.length_eq_zero_iff.mp (by omega)
      obtain ⟨rfl, -⟩ := List.cons.inj (hinnermost.symm.trans hbeneath)
      rw [← Goal.of_deadline hgoal]
      exact hdue

/-! ## Drains that come back -/

section Outcomes

variable {left ran count : Nat} {clock : VirtualClock α}

theorem quiet_of_proceed (h : (proceed goal left ran clock).outcome = .answer (.ok (.ran count))) :
    clock.next? goal.deadline = none ∧ (proceed goal left ran clock).state = clock.reach goal := by
  rcases proceed_cases goal left ran clock with
    ⟨hnext, hmove⟩ | ⟨-, hmove⟩ | ⟨timer, left', -, -, hmove⟩ <;> rw [hmove] at h
  · exact ⟨hnext, by rw [hmove]⟩
  · cases h
  · cases h

/-- The clock overflows before the first turn, or not at all. -/
theorem not_overflow_of_proceed {now delta : Nat} :
    (proceed goal left ran clock).outcome ≠ .answer (.error (.clockOverflow now delta)) := by
  intro h
  rcases proceed_cases goal left ran clock with
    ⟨-, hmove⟩ | ⟨-, hmove⟩ | ⟨timer, left', -, -, hmove⟩ <;> rw [hmove] at h <;> cases h

end Outcomes

/-- Where a drain comes back, it was refused, or this was its last turn. -/
theorem turn_of_returns {drain : Drain} {inner : List (Contact TimerId α)}
    {result : Except TimerError (Answer TimerId)} (hgoal : Goal.of drain p.state.now = .ok goal)
    (h : (provider limit).Returns (.drain drain) p inner result q) :
    ∃ (left ran : Nat) (clock : VirtualClock α),
      (Undrained inner → goal.Ahead clock.now) ∧
      (proceed goal left ran clock).outcome = .answer result ∧
      q.state = (proceed goal left ran clock).state := by
  cases h with
  | answer hduring hanswer hback =>
      obtain ⟨left, ran, clock, hahead, hserve, hlast⟩ :=
        (turn_of_during hgoal hduring).2 _ hanswer hback
      exact ⟨left, ran, clock, hahead, hlast, congrArg Site.state hserve⟩

/-- A drain that comes back well has found nothing left that is due, and then
has moved the clock to its goal. -/
theorem reached_of_returns {drain : Drain} {inner : List (Contact TimerId α)} {count : Nat}
    (h : (provider limit).Returns (.drain drain) p inner (.ok (.ran count)) q) :
    ∃ (goal : Goal) (clock : VirtualClock α), Goal.of drain p.state.now = .ok goal ∧
      (Undrained inner → goal.Ahead clock.now) ∧
      clock.next? goal.deadline = none ∧ q.state = clock.reach goal := by
  cases hgoal : Goal.of drain p.state.now with
  | error e => cases (refused_of_returns hgoal h).2.1
  | ok goal =>
      obtain ⟨left, ran, clock, hahead, hlast, hstate⟩ := turn_of_returns hgoal h
      obtain ⟨hnext, hreach⟩ := quiet_of_proceed hlast
      exact ⟨goal, clock, rfl, hahead, hnext, hstate.trans hreach⟩

/-- And nothing is left then that was due by the deadline. -/
theorem quiet_of_returns {drain : Drain} {inner : List (Contact TimerId α)} {count : Nat}
    (h : (provider limit).Returns (.drain drain) p inner (.ok (.ran count)) q)
    {timer : QueuedTimer α} (htimer : timer ∈ q.state.queue) :
    timer.isDue (drain.deadline p.state.now) = false := by
  obtain ⟨goal, clock, hgoal, -, hnext, hstate⟩ := reached_of_returns h
  rw [hstate, reach_queue] at htimer
  rw [← Goal.of_deadline hgoal]
  exact next?_eq_none_iff.mp hnext timer htimer

/-- An advance is refused for its target, and for nothing else. -/
theorem overflow_of_returns {span : Duration} {inner : List (Contact TimerId α)} {now delta : Nat}
    (h : (provider limit).Returns (.drain (.advance span)) p inner
      (.error (.clockOverflow now delta)) q) :
    word64 ≤ p.state.now + span.millis ∧ inner = [] ∧ q = p := by
  rcases Nat.lt_or_ge (p.state.now + span.millis) word64 with hlt | hle
  · have hgoal : Goal.of (.advance span) p.state.now = .ok (.advance span.millis _) := if_pos hlt
    obtain ⟨left, ran, clock, -, hlast, -⟩ := turn_of_returns hgoal h
    exact absurd hlast not_overflow_of_proceed
  · obtain ⟨hinner, -, hq⟩ := refused_of_returns (Goal.of_overflow hle) h
    exact ⟨hle, hinner, hq⟩

/-- Where an advance comes back well, the clock is at its target, or past it
where a callback has taken it there. -/
theorem now_of_returns {span : Duration} {inner : List (Contact TimerId α)} {count : Nat}
    (h : (provider limit).Returns (.drain (.advance span)) p inner (.ok (.ran count)) q) :
    p.state.now + span.millis ≤ q.state.now ∧
      (Undrained inner → q.state.now = p.state.now + span.millis) := by
  obtain ⟨goal, clock, hgoal, hahead, -, hstate⟩ := reached_of_returns h
  simp only [Goal.of] at hgoal
  split at hgoal
  · cases hgoal
    rw [hstate]
    exact ⟨Nat.le_max_right _ _, fun hcalm => Nat.max_eq_right (hahead hcalm _ rfl)⟩
  · cases hgoal

/-- **The clock keeps time.**  Wherever a run has taken it, and whatever its
callbacks did and will do:

  - it does not run back;
  - a callback is started when the time at which its timer was due has come;
  - a drain starts no callback itself whose timer is due after its deadline;
  - when it comes back well, no timer waits that is due by then;
  - an advance overflows if and only if its target is past the last instant,
    and then it is over at once and has changed nothing; when it comes back
    well, the clock is at the target or past it, and exactly there if no
    callback drained. -/
theorem keeps_time (limit : Nat) (contacts : List (Contact TimerId α)) :
    let P : Provider (VirtualClock α) (UnderWay α) TimerId α := provider limit
    let p : Place α := P.serveAll contacts ⟨.fresh, []⟩
    (∀ later, p.state.now ≤ (P.serveAll later p).state.now) ∧
    (∀ c timer now, .started timer now ∈ happenings limit c p →
      now = (P.serve c p).state.now ∧ timer.dueAt ≤ now) ∧
    (∀ drain inner c q timer now, P.During (.drain drain) p inner c q →
      .started timer now ∈ happenings limit c q →
      (P.serve c q).suspended.length = p.suspended.length + 1 →
      timer.isDue (drain.deadline p.state.now) = true) ∧
    (∀ drain inner count q, P.Returns (.drain drain) p inner (.ok (.ran count)) q →
      ∀ timer ∈ q.state.queue, timer.isDue (drain.deadline p.state.now) = false) ∧
    ∀ span, let target := p.state.now + span.millis
      ((∃ inner now delta q, P.Returns (.drain (.advance span)) p inner
        (.error (.clockOverflow now delta)) q) ↔ word64 ≤ target) ∧
      (∀ inner now delta q, P.Returns (.drain (.advance span)) p inner
        (.error (.clockOverflow now delta)) q → inner = [] ∧ q = p) ∧
      ∀ inner count q, P.Returns (.drain (.advance span)) p inner (.ok (.ran count)) q →
        target ≤ q.state.now ∧ (Undrained inner → q.state.now = target) := by
  intro P p
  have hp : Place.InTime p := inTime_serveAll limit contacts
  refine ⟨now_le_serveAll limit hp, ?_, ?_, ?_, fun span => ⟨⟨?_, ?_⟩, ?_, ?_⟩⟩
  · intro c timer now hstarted
    exact due_of_serve hp hstarted
  · intro drain inner c q timer now hduring hstarted hown
    exact due_of_started hduring hstarted hown
  · intro drain inner count q hreturns timer htimer
    exact quiet_of_returns hreturns htimer
  · rintro ⟨inner, now, delta, q, hreturns⟩
    exact (overflow_of_returns hreturns).1
  · exact fun hle => ⟨_, _, _, _, returns_of_refused (Goal.of_overflow hle)⟩
  · exact fun inner now delta q hreturns => (overflow_of_returns hreturns).2
  · exact fun inner count q hreturns => now_of_returns hreturns

/-- A timer is scheduled that repeats every ten milliseconds. -/
def tickingContacts : List (Contact TimerId Unit) := [.ask (.schedule .repeating () (.ofMillis 10))]

def ticking : Place Unit := (provider 5).serveAll tickingContacts ⟨.fresh, []⟩

/-- Its first callback advances by thirty, its second does nothing. -/
def overtakingContacts : List (Contact TimerId Unit) :=
  [.ask (.drain (.advance (.ofMillis 30))), .ended .returned, .ended .returned]

/-- An advance by twenty is overtaken by its own first callback.  The timer,
put back into the past, is started once more; and the advance leaves the clock
where the callback has taken it. -/
theorem overtaken_advance_keeps_time :
    ∃ q, (provider 5).Returns (.drain (.advance (.ofMillis 20))) ticking overtakingContacts
        (.ok (.ran 2)) q ∧
      q.state.now = 40 ∧ ticking.state.now + (Duration.ofMillis 20).millis ≤ q.state.now ∧
      q.state.queue.map (·.dueAt) = [30] ∧
      ∀ timer ∈ q.state.queue, timer.isDue (some 20) = false := by
  have hduring : (provider 5).During (.drain (.advance (.ofMillis 20))) ticking overtakingContacts
      (.ended .returned) _ :=
    .later _ (.later _ (.later _ .asked (by decide)) (by decide)) (by decide)
  have hreturns : (provider 5).Returns (.drain (.advance (.ofMillis 20))) ticking overtakingContacts
      (.ok (.ran 2)) _ := .answer hduring rfl rfl
  obtain ⟨-, -, -, hquiet, hadvance⟩ := keeps_time 5 tickingContacts
  refine ⟨_, hreturns, rfl, ?_, rfl, ?_⟩
  · exact ((hadvance _).2.2 _ _ _ hreturns).1
  · exact hquiet _ _ _ _ hreturns

end VirtualClock

/-! ## Sessions -/

namespace ClockSession

variable {limit : Nat} {s : ClockSession}

/-- The clock of a session keeps time from here on. -/
structure Punctual (limit : Nat) (s : ClockSession) : Prop where
  forward : ∀ steps, s.clock.now ≤ (s.after limit steps).clock.now
  started : ∀ timer now, .started timer now ∈ s.happenings limit →
    now = (s.after limit 1).clock.now ∧ timer.dueAt ≤ now
  /-- A drain has started itself what waits directly above it. -/
  due : ∀ drain steps timer now,
    Session.Awaits (VirtualClock.provider limit) s (.drain drain) steps →
    .started timer now ∈ (s.after limit steps).happenings limit →
    (s.after limit (steps + 1)).machine.stack.length = s.machine.stack.length + 1 →
    timer.isDue (drain.deadline s.clock.now) = true
  quiet : ∀ drain steps count,
    Session.Answered (VirtualClock.provider limit) s (.drain drain) steps (.ok (.ran count)) →
    ∀ timer ∈ (s.after limit (steps + 1)).clock.queue,
      timer.isDue (drain.deadline s.clock.now) = false
  overflows : ∀ span, s.contact? limit = some (.ask (.drain (.advance span))) →
    ((∃ steps now delta, Session.Answered (VirtualClock.provider limit) s
        (.drain (.advance span)) steps (.error (.clockOverflow now delta))) ↔
      word64 ≤ s.clock.now + span.millis)
  /-- What is refused is over at once. -/
  refused : ∀ span steps now delta, Session.Answered (VirtualClock.provider limit) s
      (.drain (.advance span)) steps (.error (.clockOverflow now delta)) →
    steps = 0 ∧ (s.after limit 1).clock = s.clock
  arrives : ∀ span steps count, Session.Answered (VirtualClock.provider limit) s
      (.drain (.advance span)) steps (.ok (.ran count)) →
    s.clock.now + span.millis ≤ (s.after limit (steps + 1)).clock.now ∧
      ((∀ k < steps, ∀ drain,
          (s.after limit (k + 1)).contact? limit ≠ some (.ask (.drain drain))) →
        (s.after limit (steps + 1)).clock.now = s.clock.now + span.millis)

/-- What happens at the clock happens where something has reached it. -/
theorem exists_contact_of_happening {x : Happening (Handler TimerId)}
    (h : x ∈ s.happenings limit) : ∃ c, s.contact? limit = some c ∧
      x ∈ VirtualClock.happenings limit c (Session.site s) := by
  cases hc : s.contact? limit with
  | none =>
      have hnone : Machine.contact? (VirtualClock.provider limit) s.machine = none := hc
      rw [happenings, ClockMachine.happenings, hnone] at h
      cases h
  | some c =>
      rw [happenings_of_contact hc] at h
      exact ⟨c, rfl, h⟩

theorem due_of_happening (hp : VirtualClock.Place.InTime (Session.site s)) {now : Nat}
    {timer : QueuedTimer (Handler TimerId)} (h : .started timer now ∈ s.happenings limit) :
    now = (s.after limit 1).clock.now ∧ timer.dueAt ≤ now := by
  obtain ⟨c, hc, h⟩ := exists_contact_of_happening h
  obtain ⟨hnow, hdue⟩ := VirtualClock.due_of_serve hp h
  have hsite : Session.site (s.after limit 1) = (VirtualClock.provider limit).serve c (Session.site s) :=
    Session.site_of_contact hc
  exact ⟨hnow.trans (congrArg (·.state.now) hsite.symm), hdue⟩

theorem now_le_after (hs : s.machine.Settled) (hp : VirtualClock.Place.InTime (Session.site s))
    (steps : Nat) : s.clock.now ≤ (s.after limit steps).clock.now := by
  have hsite : Session.site (s.after limit steps) = _ := Session.site_after hs steps
  show (Session.site s).state.now ≤ (Session.site (s.after limit steps)).state.now
  rw [hsite]
  exact VirtualClock.now_le_serveAll limit hp _

theorem due_of_awaits (hs : s.machine.Settled) {drain : Drain} {steps now : Nat}
    {timer : QueuedTimer (Handler TimerId)}
    (h : Session.Awaits (VirtualClock.provider limit) s (.drain drain) steps)
    (hstarted : .started timer now ∈ (s.after limit steps).happenings limit)
    (hown : (s.after limit (steps + 1)).machine.stack.length = s.machine.stack.length + 1) :
    timer.isDue (drain.deadline s.clock.now) = true := by
  obtain ⟨next, hnext, hstarted⟩ := exists_contact_of_happening hstarted
  obtain ⟨c, q, hduring, hserve, hlast⟩ := h.during hs
  obtain ⟨rfl, rfl⟩ := hlast next hnext
  refine VirtualClock.due_of_started hduring hstarted ?_
  rw [hserve, Session.length_suspended, Session.length_suspended]
  exact hown

section Refused

variable {drain : Drain} {e : TimerError} (hasks : s.contact? limit = some (.ask (.drain drain)))
  (hrefused : VirtualClock.Goal.of drain (Session.site s).state.now = .error e)
include hasks hrefused

theorem site_of_refused : Session.site (s.after limit 1) = Session.site s := by
  have hsite : Session.site (s.after limit 1) = _ := Session.site_of_contact hasks
  rw [hsite]
  exact VirtualClock.serve_of_refused hrefused

theorem answered_of_refused :
    Session.Answered (VirtualClock.provider limit) s (.drain drain) 0 (.error e) where
  asks := hasks
  waits k hk := absurd hk (Nat.not_lt_zero k)
  back := by
    have hsite := congrArg (·.suspended.length) (site_of_refused hasks hrefused)
    simp only [Session.length_suspended] at hsite
    exact hsite
  told := Session.log_of_answer hasks (Option.some.inj (VirtualClock.outcome_of_refused hrefused))

end Refused

/-- A drain that overflows is over at once, and has changed nothing. -/
theorem over_of_overflow (hs : s.machine.Settled) {span : Duration} {steps now delta : Nat}
    (h : Session.Answered (VirtualClock.provider limit) s (.drain (.advance span)) steps
      (.error (.clockOverflow now delta))) :
    word64 ≤ s.clock.now + span.millis ∧ steps = 0 ∧ (s.after limit 1).clock = s.clock := by
  obtain ⟨hpast, -, -⟩ := VirtualClock.overflow_of_returns (h.returns hs)
  have hsite : Session.site (s.after limit 1) = Session.site s :=
    site_of_refused h.asks (VirtualClock.Goal.of_overflow hpast)
  refine ⟨hpast, ?_, congrArg Site.state hsite⟩
  -- had it gone on, something would wait
  by_contra hsteps
  have hwaits := h.waits 0 (Nat.pos_of_ne_zero hsteps)
  rw [← Session.length_suspended, ← Session.length_suspended] at hwaits
  exact absurd (congrArg (·.suspended.length) hsite) (Nat.ne_of_gt hwaits)

/-- Where no callback drains, an advance that comes back well comes back at its
target. -/
theorem arrives_of_answered (hs : s.machine.Settled) {span : Duration} {steps count : Nat}
    (h : Session.Answered (VirtualClock.provider limit) s (.drain (.advance span)) steps
      (.ok (.ran count))) :
    s.clock.now + span.millis ≤ (s.after limit (steps + 1)).clock.now ∧
      ((∀ k < steps, ∀ drain,
          (s.after limit (k + 1)).contact? limit ≠ some (.ask (.drain drain))) →
        (s.after limit (steps + 1)).clock.now = s.clock.now + span.millis) := by
  obtain ⟨hle, hexact⟩ := VirtualClock.now_of_returns (h.returns hs)
  refine ⟨hle, ?_⟩
  intro hcalm
  refine hexact ?_
  intro drain hdrain
  obtain ⟨k, hk, hcontact⟩ := Session.mem_contacts.mp hdrain
  rw [← Session.after_succ'] at hcontact
  exact hcalm k hk drain hcontact

theorem punctual_of_inTime (hs : s.machine.Settled)
    (hp : VirtualClock.Place.InTime (Session.site s)) : Punctual limit s where
  forward := now_le_after hs hp
  started _ _ := due_of_happening hp
  due _ _ _ _ := due_of_awaits hs
  quiet _ _ _ h _ := VirtualClock.quiet_of_returns (h.returns hs)
  overflows span hasks := by
    constructor
    · rintro ⟨steps, now, delta, h⟩
      exact (over_of_overflow hs h).1
    · intro hpast
      exact ⟨_, _, _, answered_of_refused hasks (VirtualClock.Goal.of_overflow hpast)⟩
  refused _ _ _ _ h := (over_of_overflow hs h).2
  arrives _ _ _ := arrives_of_answered hs

/-- **The clock of a session keeps time.**  Whatever a harness does on a page
with a fresh clock, and whatever its callbacks do, at every step all that is to
come is in time. -/
theorem punctual_after (limit : Nat) (globals : Globals) (actions : List (Action TimerId))
    (n : Nat) : Punctual limit ((fresh globals actions).after limit n) := by
  have hstart : (fresh globals actions).machine.Settled := Session.settled_start _ _
  refine punctual_of_inTime (Session.settled_after hstart n) ?_
  -- a session has got where it is by contacts alone
  have hsite : Session.site ((fresh globals actions).after limit n) = _ :=
    Session.site_after hstart n
  rw [hsite]
  exact VirtualClock.inTime_serveAll limit _

/-- A harness that schedules and advances. -/
def tickingTwice : ClockSession :=
  fresh .empty [.schedule .page .repeating (.ofMillis 10) none .idle,
    .drain (.advance (.ofMillis 20))]

-- after five steps it asks for the advance, whose two callbacks take a step each
example : Session.Answered (VirtualClock.provider 5) (tickingTwice.after 5 5)
    (.drain (.advance (.ofMillis 20))) 2 (.ok (.ran 2)) where
  asks := rfl
  waits := by decide
  back := rfl
  told := ⟨_, _, rfl⟩

end ClockSession

end PageTimers
