/-
# A drain that comes to its limit can be taken up again

A drain that comes to its step limit has done nothing that a drain with a
larger limit would not have done: it has started the first callbacks of that
drain, and left everything as it is in that drain when the last of them has
returned.  The timer that would have been next still waits, ahead of all
others.  So nothing is lost and nothing is done twice, and an advance that is
issued again and again comes to where one without a limit comes.

What a drain does is given by the timers that it starts, whatever its limit
(`Fires.matches`), so a drain with a limit is the beginning of that list.  The
clock shows the due time of the last timer that was started, because timers
are started in the order of their due times (`Fires.now_eq`): a callback puts
no timer into the queue that is due before the clock.
-/
import PageTimers.Proofs.Clock.FiringOrder
import PageTimers.Proofs.Clock.Additivity

namespace PageTimers

/-! ## Due times -/

namespace VirtualClock

variable {α : Type} {nests : Prop} {floor : Nat} {p q : Place α}

/-- What the clock shows, and what it holds, lies between `floor` and the last
instant. -/
structure Within (floor : Nat) (p : Place α) : Prop where
  le_now : floor ≤ p.state.now
  now_le : p.state.now ≤ Duration.lastInstant
  timers : ∀ t ∈ held p, floor ≤ t.dueAt ∧ t.dueAt ≤ Duration.lastInstant

namespace Within

theorem fresh : Within 0 (⟨.fresh, []⟩ : Place α) where
  le_now := Nat.zero_le _
  now_le := Nat.zero_le _
  timers _ h := absurd h List.not_mem_nil

theorem of_subset (hp : Within floor p) (hnow : q.state.now = p.state.now)
    (hheld : ∀ t ∈ held q, t ∈ held p) : Within floor q where
  le_now := hnow ▸ hp.le_now
  now_le := hnow ▸ hp.now_le
  timers t ht := hp.timers t (hheld t ht)

theorem of_push (hp : Within floor p) {t : QueuedTimer α} (hnow : q.state.now = p.state.now)
    (hheld : ∀ s ∈ held q, s = t ∨ s ∈ held p)
    (ht : floor ≤ t.dueAt ∧ t.dueAt ≤ Duration.lastInstant) : Within floor q where
  le_now := hnow ▸ hp.le_now
  now_le := hnow ▸ hp.now_le
  timers s hs := by
    rcases hheld s hs with rfl | hs
    · exact ht
    · exact hp.timers s hs

/-- No beat puts a timer before the clock. -/
theorem beat {h : Happening α} (hp : Within floor p) (b : Beat nests p h q) : Within floor q := by
  cases b with
  | @schedule clock us kind callback delay =>
      refine hp.of_push (t := clock.scheduledTimer kind callback delay) rfl ?_ ?_
      · intro s hs
        exact List.mem_cons.mp hs
      · exact ⟨Nat.le_trans hp.le_now (le_saturatingAdd hp.now_le), saturatingAdd_le _ _⟩
  | @cancel clock us id =>
      refine hp.of_subset rfl fun t ht => mem_held.mpr ((mem_held.mp ht).imp_left fun hqueue => ?_)
      exact ((mem_cancel_queue id clock).mp hqueue).1
  | @start clock us goal left ran timer hnext _ _ =>
      obtain ⟨hle, hlast⟩ := hp.timers timer (mem_held.mpr (Or.inl (next?_spec hnext).1))
      refine ⟨Nat.le_trans hp.le_now (Nat.le_max_left _ _), Nat.max_le.mpr ⟨hp.now_le, hlast⟩, ?_⟩
      intro t ht
      rcases mem_held.mp ht with hqueue | ⟨u, hu, rfl⟩
      · exact hp.timers t (mem_held.mpr (Or.inl ((mem_start_queue timer clock).mp hqueue).1))
      · rcases List.mem_cons.mp hu with rfl | hu
        · exact ⟨hle, hlast⟩
        · exact hp.timers u.timer (mem_held.mpr (Or.inr ⟨u, hu, rfl⟩))
  | @reach clock us goal _ hgoal _ =>
      refine ⟨Nat.le_trans hp.le_now (now_le_reach goal clock), ?_, fun t ht => hp.timers t ?_⟩
      · cases goal with
        | advance delta target => exact Nat.max_le.mpr ⟨hp.now_le, hgoal⟩
        | runDue now => exact hp.now_le
        | flush => exact hp.now_le
      · simpa [held] using ht
  | @finish clock u us =>
      have hover : ∀ t ∈ clock.queue ++ us.map (·.timer), t ∈ held ⟨clock, u :: us⟩ :=
        fun t ht => over_sublist.subset ht
      rcases finish_cases u.timer clock with ⟨hrest, -⟩ | ⟨period, -, -, hqueue, -⟩
      · rw [hrest]
        exact hp.of_subset rfl hover
      · obtain ⟨hle, hlast⟩ := hp.timers u.timer (mem_held.mpr (Or.inr ⟨u, List.mem_cons_self, rfl⟩))
        refine hp.of_push (t := clock.rearmed u.timer period) (finish_now _ _) ?_
          ⟨Nat.le_trans hle (le_saturatingAdd hlast), saturatingAdd_le _ _⟩
        intro s hs
        rw [held, hqueue] at hs
        exact (List.mem_cons.mp hs).imp_right (hover s)
  | @abandon clock u us => exact hp.of_subset rfl fun t ht => over_sublist.subset ht

theorem beats {history : List (Happening α)} (hp : Within floor p) (h : Beats nests p history q) :
    Within floor q :=
  h.invariant (fun _ _ _ hp b => hp.beat b) hp

/-- What waits when a timer is started is due no earlier than it. -/
theorem started {clock : VirtualClock α} {deadline : Option Nat} {u : UnderWay α}
    (hp : Within floor ⟨clock, []⟩) (hnext : clock.next? deadline = some u.timer) :
    Within u.timer.dueAt ⟨clock.start u.timer, [u]⟩ := by
  obtain ⟨-, hlast⟩ := hp.timers u.timer (mem_held.mpr (Or.inl (next?_spec hnext).1))
  refine ⟨Nat.le_max_right _ _, Nat.max_le.mpr ⟨hp.now_le, hlast⟩, fun t ht => ?_⟩
  rcases mem_held.mp ht with hqueue | ⟨u', hu', rfl⟩
  · have hmem : t ∈ clock.queue := ((mem_start_queue u.timer clock).mp hqueue).1
    have hle := QueuedTimer.precedes_iff.mp (next?_precedes hnext t hmem)
    exact ⟨by omega, (hp.timers t (mem_held.mpr (Or.inl hmem))).2⟩
  · obtain rfl := List.mem_singleton.mp hu'
    exact ⟨Nat.le_refl _, hlast⟩

end Within

end VirtualClock

/-! ## Turns as beats -/

namespace World

variable {nests : Prop} {limit : Nat} {caller : Caller TimerId} {world : ClockWorld}
  {action : Action TimerId} {actions : List (Action TimerId)} {goal : VirtualClock.Goal}
  {timer last : QueuedTimer (Handler TimerId)} {timers : List (QueuedTimer (Handler TimerId))}
  {p : Action TimerId → Bool} {floor : Nat}

theorem act_beats (limit : Nat) (caller : Caller TimerId) (world : ClockWorld)
    (us : List (VirtualClock.UnderWay (Handler TimerId))) (hdrain : action.isDrain = false) :
    ∃ history, VirtualClock.Beats nests ⟨world.provider, us⟩ history
      ⟨(act limit caller world action).provider, us⟩ := by
  rcases act_provider limit caller world hdrain with h | ⟨_, kind, delay, _, handler, -, h⟩ | ⟨id, h⟩
  · rw [h]
    exact ⟨[], .refl _⟩
  · rw [h]
    exact ⟨_, .single (.schedule kind handler delay)⟩
  · rw [h]
    exact ⟨_, .single (.cancel id)⟩

theorem enact_beats (limit : Nat) (caller : Caller TimerId) (world : ClockWorld)
    (us : List (VirtualClock.UnderWay (Handler TimerId)))
    (hdrain : ∀ a ∈ actions, a.isDrain = false) :
    ∃ history, VirtualClock.Beats nests ⟨world.provider, us⟩ history
      ⟨(enact limit caller world actions).provider, us⟩ := by
  induction actions generalizing world with
  | nil => exact ⟨[], .refl _⟩
  | cons action actions ih =>
      obtain ⟨first, hfirst⟩ := act_beats limit caller world us (hdrain action List.mem_cons_self)
      obtain ⟨rest, hrest⟩ := ih (act limit caller world action)
        fun a ha => hdrain a (List.mem_cons_of_mem _ ha)
      exact ⟨first ++ rest, hfirst.append hrest⟩

/-- From the start of a callback to its end. -/
theorem callback_beats (world : ClockWorld) (u : VirtualClock.UnderWay (Handler TimerId))
    (hdrain : ∀ a ∈ u.timer.script, a.isDrain = false) :
    ∃ history, VirtualClock.Beats nests ⟨world.provider.start u.timer, [u]⟩ history
      ⟨(world.turn limit u.timer).provider, []⟩ := by
  obtain ⟨history, h⟩ := enact_beats limit (.callback (some u.timer.id)) (world.startCallback u.timer)
    [u] hdrain
  exact ⟨history ++ [.returned u.timer], .snoc h .finish⟩

theorem turn_beats (hgoal : goal.InTime) (hnext : world.provider.next? goal.deadline = some timer)
    (hdrain : ∀ a ∈ timer.script, a.isDrain = false) :
    ∃ history, VirtualClock.Beats nests ⟨world.provider, []⟩ history
      ⟨(world.turn limit timer).provider, []⟩ := by
  obtain ⟨history, h⟩ := callback_beats world ⟨goal, 0, 0, timer⟩ hdrain
  have hstart : VirtualClock.Beats nests ⟨world.provider, []⟩
      [.started timer (world.provider.start timer).now]
      ⟨world.provider.start timer, [⟨goal, 0, 0, timer⟩]⟩ :=
    .single (.start hnext hgoal (Or.inl rfl))
  exact ⟨_, hstart.append h⟩

/-- Turn after turn is beat after beat. -/
theorem Fires.beats_while {I : ClockWorld → Prop} (hI : Undraining limit I) (hworld : I world)
    (hgoal : goal.InTime) (h : Fires limit goal.deadline world timers) :
    ∃ history, VirtualClock.Beats nests ⟨world.provider, []⟩ history
      ⟨(world.turns limit timers).provider, []⟩ := by
  generalize hdeadline : goal.deadline = deadline at h
  induction h with
  | nil => exact ⟨[], .refl _⟩
  | @cons world timer timers hnext _ _ ih =>
      subst hdeadline
      obtain ⟨first, hfirst⟩ := turn_beats hgoal hnext (hI.undrained hworld hnext)
      obtain ⟨rest, hrest⟩ := ih (hI.turn hworld hnext)
      exact ⟨first ++ rest, hfirst.append hrest⟩

section Fires

variable (hp : ∀ drain, p (.drain drain) = false) (hobeys : Obeys p world)

include hp hobeys

theorem Fires.beats (hgoal : goal.InTime) (h : Fires limit goal.deadline world timers) :
    ∃ history, VirtualClock.Beats nests ⟨world.provider, []⟩ history
      ⟨(world.turns limit timers).provider, []⟩ :=
  h.beats_while (undraining_obeys hp) hobeys hgoal

/-- What a drain starts is due no earlier than what waited when it began. -/
theorem Fires.le_dueAt (hgoal : goal.InTime) (h : Fires limit goal.deadline world timers)
    (hwithin : VirtualClock.Within floor ⟨world.provider, []⟩) : ∀ t ∈ timers, floor ≤ t.dueAt := by
  generalize hdeadline : goal.deadline = deadline at h
  induction h with
  | nil => exact fun _ ht => absurd ht List.not_mem_nil
  | @cons world timer timers hnext _ _ ih =>
      subst hdeadline
      intro t ht
      rcases List.mem_cons.mp ht with rfl | ht
      · have hheld : t ∈ VirtualClock.held ⟨world.provider, []⟩ :=
          VirtualClock.mem_held.mpr (Or.inl (VirtualClock.next?_spec hnext).1)
        exact (hwithin.timers t hheld).1
      · obtain ⟨history, hturn⟩ : ∃ history, VirtualClock.Beats False ⟨world.provider, []⟩ history
            ⟨(world.turn limit timer).provider, []⟩ :=
          turn_beats hgoal hnext (hobeys.undrained hp hnext)
        exact ih (hobeys.turn hp hnext) (hwithin.beats hturn) t ht

/-- A drain leaves the clock at the due time of the last timer that it started,
unless that was past already. -/
theorem Fires.now_eq (hgoal : goal.InTime)
    (h : Fires limit goal.deadline world (timers ++ [last]))
    (hwithin : VirtualClock.Within floor ⟨world.provider, []⟩) :
    (world.turns limit (timers ++ [last])).provider.now = max world.provider.now last.dueAt := by
  induction timers generalizing world floor with
  | nil =>
      cases h with
      | cons hnext _ _ => exact turn_now (hobeys.undrained hp hnext)
  | cons timer timers ih =>
      cases h with
      | cons hnext hreturns h =>
          obtain ⟨history, hcallback⟩ : ∃ history, VirtualClock.Beats False
              ⟨world.provider.start timer, [⟨goal, 0, 0, timer⟩]⟩ history
              ⟨(world.turn limit timer).provider, []⟩ :=
            callback_beats world ⟨goal, 0, 0, timer⟩ (hobeys.undrained hp hnext)
          have hturn : VirtualClock.Within timer.dueAt ⟨(world.turn limit timer).provider, []⟩ :=
            (hwithin.started (u := ⟨goal, 0, 0, timer⟩) hnext).beats hcallback
          have hlast : timer.dueAt ≤ last.dueAt :=
            h.le_dueAt hp (hobeys.turn hp hnext) hgoal hturn last (by simp)
          have hnow := ih (hobeys.turn hp hnext) h hturn
          rw [turn_now (hobeys.undrained hp hnext)] at hnow
          refine hnow.trans ?_
          omega

end Fires

/-! ### The callbacks that are started -/

theorem starts_onto (world base : ClockWorld) :
    (world.onto base).starts = world.starts ++ base.starts :=
  List.filterMap_append

theorem starts_enact (hdrain : ∀ a ∈ actions, a.isDrain = false) :
    (enact limit caller world actions).starts = world.starts := by
  induction actions generalizing world with
  | nil => rfl
  | cons action actions ih =>
      refine (ih fun a ha => hdrain a (List.mem_cons_of_mem _ ha)).trans ?_
      exact starts_act (hdrain action List.mem_cons_self)

theorem starts_turn (hdrain : ∀ a ∈ timer.script, a.isDrain = false) :
    (world.turn limit timer).starts =
      (timer.firing, max world.provider.now timer.dueAt) :: world.starts := by
  have hstart : (world.startCallback timer).starts =
      (timer.firing, max world.provider.now timer.dueAt) :: world.starts := List.filterMap_cons_some rfl
  rw [← hstart]
  exact starts_enact hdrain

/-- The timers that a drain starts are recorded one by one. -/
theorem starts_turns (hp : ∀ drain, p (.drain drain) = false) (hobeys : Obeys p world)
    {deadline : Option Nat} (h : Fires limit deadline world timers) :
    ∃ later, (world.turns limit timers).starts = later ++ world.starts ∧
      later.length = timers.length := by
  induction h with
  | nil => exact ⟨[], rfl, rfl⟩
  | @cons world timer timers hnext _ _ ih =>
      obtain ⟨later, hlater, hlength⟩ := ih (hobeys.turn hp hnext)
      rw [starts_turn (hobeys.undrained hp hnext)] at hlater
      refine ⟨later ++ [(timer.firing, max world.provider.now timer.dueAt)], ?_, ?_⟩
      · rw [List.append_assoc]
        exact hlater
      · rw [List.length_append, hlength]
        rfl

/-- What a drain has started before a timer, the timer itself, and what it starts
after. -/
theorem starts_around (hp : ∀ drain, p (.drain drain) = false) (hobeys : Obeys p world)
    {deadline : Option Nat} {next : QueuedTimer (Handler TimerId)}
    {rest : List (QueuedTimer (Handler TimerId))} (hstarts : world.starts = [])
    (h : Fires limit deadline world (timers ++ next :: rest)) :
    (world.turns limit timers).starts.length = timers.length ∧
    ∃ later, (world.turns limit (timers ++ next :: rest)).starts.reverse =
      (world.turns limit timers).starts.reverse ++
        (next.firing, max (world.turns limit timers).provider.now next.dueAt) :: later := by
  obtain ⟨hfirst, hrest⟩ := fires_append_iff.mp h
  obtain ⟨begun, hbegun, hcount⟩ := starts_turns hp hobeys hfirst
  rw [hstarts, List.append_nil] at hbegun
  refine ⟨by rw [hbegun, hcount], ?_⟩
  cases hrest with
  | cons hnext hreturns hrest =>
      have hobeys' : (world.turns limit timers).Obeys p := Obeys.turns hp hobeys hfirst
      obtain ⟨later, hlater, -⟩ := starts_turns hp (hobeys'.turn hp hnext) hrest
      rw [starts_turn (hobeys'.undrained hp hnext)] at hlater
      refine ⟨later.reverse, ?_⟩
      rw [turns_append]
      refine (congrArg List.reverse hlater).trans ?_
      rw [List.reverse_append, List.reverse_cons, List.append_assoc]
      rfl

end World

/-! ## Cut short -/

/-- It neither drains nor throws. -/
def Action.isPlain (a : Action TimerId) : Bool := !a.isDrain && !a.isThrow

theorem World.Obeys.returns {world : ClockWorld} {deadline : Option Nat}
    {timer : QueuedTimer (Handler TimerId)} (h : world.Obeys Action.isPlain)
    (hnext : world.provider.next? deadline = some timer) : timer.Returns := by
  intro a ha
  have hplain := (h.script hnext a ha).1
  simp only [Action.isPlain, Bool.and_eq_true, Bool.not_eq_true'] at hplain
  exact hplain.2

namespace Turn

variable {limit larger : Nat} {drain : Drain} {goal : VirtualClock.Goal} {world : ClockWorld}
  {init rest timers : List (QueuedTimer (Handler TimerId))} {last next : QueuedTimer (Handler TimerId)}

/-- The callbacks that were started meanwhile, and what the clock showed. -/
def starts (turn : Turn TimerId) : List (Firing TimerId (Handler TimerId) × Nat) :=
  turn.log.filterMap Entry.start?

theorem starts_seen (P : Provider (VirtualClock (Handler TimerId))
      (VirtualClock.UnderWay (Handler TimerId)) TimerId (Handler TimerId)) (world : ClockWorld) :
    (seen P world).starts = world.starts.reverse := by
  show (world.log.filter Entry.isOfCallback).reverse.filterMap Entry.start? = world.starts.reverse
  rw [List.filterMap_reverse, List.filterMap_filter]
  congr 2
  funext entry
  cases entry with
  | started firing now => rfl
  | did caller action result => cases caller <;> rfl

/-- A drain with a limit comes back where callbacks neither drain nor throw. -/
theorem exists_comes (limit : Nat) (hplain : world.Obeys Action.isPlain)
    (hgoal : VirtualClock.Goal.of drain world.provider.now = .ok goal) :
    ∃ timers world', World.Fires limit goal.deadline world.forget timers ∧
      Comes (VirtualClock.provider limit) (.drain drain) world world'
        (seen (VirtualClock.provider limit) world') ∧
      world'.starts = (world.forget.turns limit timers).starts ∧
      ((world.forget.turns limit timers).provider.next? goal.deadline = none ∨
        timers.length = VirtualClock.clampLimit limit) := by
  have hp : ∀ drain, Action.isPlain (.drain drain) = false := fun _ => rfl
  obtain ⟨timers, hfires, hstops⟩ := World.exists_fires limit goal.deadline
    (VirtualClock.clampLimit limit) world.forget
  cases hstops with
  | quiet hnone hle =>
      exact ⟨timers, _, hfires, comes_quiet hp hplain hgoal hfires hle hnone, rfl, Or.inl hnone⟩
  | limited hsome hlength =>
      exact ⟨timers, _, hfires, comes_limited hp hplain hgoal hfires hlength hsome, rfl,
        Or.inr hlength⟩
  | throws hsome hthrows _ =>
      have hafter : (world.forget.turns limit timers).Obeys Action.isPlain :=
        World.Obeys.turns hp hplain hfires
      exact absurd (hafter.returns hsome) hthrows

/-- A drain that came to its limit, next to the same drain with a larger one:
`last` is the timer whose callback ran last, and `next` the one that waits. -/
structure CutShort (limit larger : Nat) (drain : Drain) (world stopped : ClockWorld)
    (turn longer : Turn TimerId) (last next : QueuedTimer (Handler TimerId)) : Prop where
  result : turn.result = some (.answered (.error (.stepLimitExceeded limit)))
  /-- As many callbacks ran as the limit allows. -/
  length : turn.starts.length = limit
  /-- They are the first ones of the longer drain. -/
  starts : turn.starts <+: longer.starts
  /-- All is left as it is in the longer drain when as many callbacks have
  come to their end. -/
  state : ∃ fuel goal left w,
    Machine.run (VirtualClock.provider larger) fuel (.load world.forget [.drain drain]) =
      Machine.calling drain goal left limit last [] w ∧
    stopped.forget = (w.endCallback last).forget
  now : stopped.provider.now = max world.provider.now last.dueAt
  pending : stopped.provider.pending.head? = some next
  /-- The longer drain goes on with it. -/
  goes_on : longer.starts[limit]? = some (next.firing, max stopped.provider.now next.dueAt)

/-- On its way a drain comes by the end of each callback that it runs. -/
theorem passes_callback {p : Action TimerId → Bool} (hp : ∀ drain, p (.drain drain) = false)
    (hobeys : world.Obeys p) (hgoal : VirtualClock.Goal.of drain world.provider.now = .ok goal)
    (hfires : World.Fires limit goal.deadline world.forget (init ++ [last]))
    (hlt : init.length < VirtualClock.clampLimit limit) :
    ∃ fuel left w, Machine.run (VirtualClock.provider limit) fuel (.load world.forget [.drain drain]) =
        Machine.calling drain goal left (init.length + 1) last [] w ∧
      w.endCallback last = world.forget.turns limit (init ++ [last]) := by
  obtain ⟨hinit, hlast⟩ := World.fires_append_iff.mp hfires
  have hafter : (world.forget.turns limit init).Obeys p := World.Obeys.turns hp hobeys hinit
  cases hlast with
  | cons hnext hreturns _ =>
      obtain ⟨left, hleft⟩ := Nat.exists_eq_succ_of_ne_zero (Nat.sub_ne_zero_of_lt hlt)
      have hleads := leads_fires hp hobeys hgoal hinit (Nat.le_of_lt hlt)
      rw [hleft] at hleads
      obtain ⟨fuel, hfuel⟩ := hleads.trans
        (Machine.leads_callback hnext (hafter.undrained hp hnext) hreturns)
      refine ⟨0 + fuel, left, _, hfuel 0, ?_⟩
      rw [World.turns_append]
      rfl

/-- A drain that would go on past its limit is cut short. -/
theorem exists_cutShort (hplain : world.Obeys Action.isPlain)
    (hgoal : VirtualClock.Goal.of drain world.provider.now = .ok goal)
    {history : List (Happening (Handler TimerId))}
    (hreached : VirtualClock.Beats True ⟨.fresh, []⟩ history ⟨world.provider, []⟩)
    (hlength : VirtualClock.clampLimit limit = init.length + 1)
    (hlt : init.length + 1 < VirtualClock.clampLimit larger)
    (hfires : World.Fires larger goal.deadline world.forget (init ++ [last] ++ next :: rest))
    {longer : Turn TimerId}
    (hlonger : longer.starts =
      (world.forget.turns larger (init ++ [last] ++ next :: rest)).starts.reverse) :
    ∃ stopped, Comes (VirtualClock.provider limit) (.drain drain) world stopped
        (seen (VirtualClock.provider limit) stopped) ∧
      CutShort (init.length + 1) larger drain world stopped
        (seen (VirtualClock.provider limit) stopped) longer last next := by
  have hp : ∀ drain, Action.isPlain (.drain drain) = false := fun _ => rfl
  have hforget : world.forget.Obeys Action.isPlain := hplain
  have htime : goal.InTime := VirtualClock.Goal.of_inTime hgoal
  obtain ⟨hcount, later, hstarts⟩ := World.starts_around hp hforget rfl hfires
  rw [← hlonger] at hstarts
  obtain ⟨hfirst, hrest⟩ := World.fires_append_iff.mp hfires
  cases hrest with
  | cons hnext hreturns hrest =>
      obtain ⟨hfirst', hmatch⟩ : World.Fires limit goal.deadline world.forget (init ++ [last]) ∧
          World.Matches (world.forget.turns larger (init ++ [last]))
            (world.forget.turns limit (init ++ [last])) :=
        hfirst.matches hp hforget (.refl world.forget)
      have hnext' : (world.forget.turns limit (init ++ [last])).provider.next? goal.deadline =
          some next := by
        rw [hmatch.provider]
        exact hnext
      have hcomes := comes_limited hp hplain hgoal hfirst' (by simp [hlength]) hnext'
      have hseen := starts_seen (VirtualClock.provider limit)
        ((world.forget.turns limit (init ++ [last])).answerDrain drain
          (.error (.stepLimitExceeded (VirtualClock.clampLimit limit))))
      have hseen := hseen.trans (congrArg List.reverse hmatch.starts)
      have hlen : (world.forget.turns larger (init ++ [last])).starts.reverse.length =
          init.length + 1 := by rw [List.length_reverse, hcount, List.length_append]; rfl
      refine ⟨_, hcomes, ?_⟩
      constructor
      case result =>
        rw [hlength]
        rfl
      case length => rw [hseen, hlen]
      case starts =>
        rw [hseen, hstarts]
        exact List.prefix_append _ _
      case state =>
        obtain ⟨fuel, left, w, hrun, hw⟩ := passes_callback hp hplain hgoal hfirst (by omega)
        refine ⟨fuel, goal, left, w, hrun, ?_⟩
        rw [hw]
        exact hmatch.forget
      case now =>
        have hnow := hfirst.now_eq hp hforget htime (VirtualClock.Within.fresh.beats hreached)
        exact (congrArg VirtualClock.now hmatch.provider).trans hnow
      case pending =>
        obtain ⟨history', hbeats⟩ := hfirst.beats hp hforget htime
        have horders := (VirtualClock.tidy_fresh.beats (hreached.append hbeats)).orders
        have hhead := VirtualClock.head?_pending (by simpa [VirtualClock.held] using horders) hnext
        exact (congrArg (fun clock => clock.pending.head?) hmatch.provider).trans hhead
      case goes_on =>
        have hnow := congrArg VirtualClock.now hmatch.provider
        rw [hstarts, ← hlen, List.getElem?_append_right (Nat.le_refl _), Nat.sub_self, ← hnow]
        rfl

end Turn

/-! ## Issued again -/

theorem VirtualClock.Goal.of_target {now target : Nat} (hnow : now ≤ target)
    (htarget : target < word64) :
    Goal.of (.advance (.ofMillis (target - now))) now = .ok (.advance (target - now) target) := by
  have hsum : now + (target - now) = target := by omega
  have hof := Goal.of_millis (hsum ▸ htarget)
  rw [hsum] at hof
  exact hof

namespace Turn

variable {limit : Nat} {world : ClockWorld} {timers : List (QueuedTimer (Handler TimerId))}

/-- An advance to `target` that is issued again as long as it comes to its
limit, with the callbacks that are started in all. -/
inductive Reissued (limit target : Nat) :
    ClockWorld → List (Firing TimerId (Handler TimerId) × Nat) → ClockWorld → Prop
  | done {world world' : ClockWorld} {turn : Turn TimerId} {count : Nat} :
      Comes (VirtualClock.provider limit)
        (.drain (.advance (.ofMillis (target - world.provider.now)))) world world' turn →
      turn.result = some (.answered (.ok (.ran count))) →
      Reissued limit target world turn.starts world'
  | again {world between world' : ClockWorld} {turn : Turn TimerId}
      {starts : List (Firing TimerId (Handler TimerId) × Nat)} :
      Comes (VirtualClock.provider limit)
        (.drain (.advance (.ofMillis (target - world.provider.now)))) world between turn →
      turn.result = some (.answered (.error (.stepLimitExceeded limit))) →
      Reissued limit target between starts world' →
      Reissued limit target world (turn.starts ++ starts) world'

/-- An advance that comes to its limit has started as many timers, and leaves
what their turns leave. -/
theorem comes_to_limit {target : Nat} {next : QueuedTimer (Handler TimerId)} (hlimit : 1 ≤ limit)
    (htarget : target < word64) (hplain : world.Obeys Action.isPlain)
    (hnow : world.provider.now ≤ target)
    (hfires : World.Fires limit (some target) world.forget timers) (hlength : timers.length = limit)
    (hnext : (world.forget.turns limit timers).provider.next? (some target) = some next) :
    ∃ (between : ClockWorld) (turn : Turn TimerId),
      Comes (VirtualClock.provider limit)
        (.drain (.advance (.ofMillis (target - world.provider.now)))) world between turn ∧
      turn.result = some (.answered (.error (.stepLimitExceeded limit))) ∧
      turn.starts = (world.forget.turns limit timers).starts.reverse ∧
      between.forget = (world.forget.turns limit timers).forget := by
  have hp : ∀ drain, Action.isPlain (.drain drain) = false := fun _ => rfl
  have hclamp : VirtualClock.clampLimit limit = limit := Nat.max_eq_left hlimit
  have hcomes := comes_limited hp hplain (VirtualClock.Goal.of_target hnow htarget) hfires
    (by rw [hclamp, hlength]) hnext
  refine ⟨_, _, hcomes, ?_, starts_seen _ _, rfl⟩
  rw [hclamp]
  rfl

/-- Issued again and again, the advance starts all that one without a limit
starts. -/
theorem reissued_of_fires {target : Nat} (hlimit : 1 ≤ limit) (htarget : target < word64)
    (hplain : world.Obeys Action.isPlain) (hnow : world.provider.now ≤ target)
    (hfires : World.Fires limit (some target) world.forget timers)
    (hquiet : (world.forget.turns limit timers).provider.next? (some target) = none) :
    ∃ world', Reissued limit target world (world.forget.turns limit timers).starts.reverse world' ∧
      world'.forget = ((world.forget.turns limit timers).moved target).forget := by
  have hp : ∀ drain, Action.isPlain (.drain drain) = false := fun _ => rfl
  have hforget : world.forget.Obeys Action.isPlain := hplain
  induction hcount : timers.length using Nat.strongRecOn generalizing world timers with
  | _ count ih =>
      by_cases hle : timers.length ≤ limit
      · have hgoal := VirtualClock.Goal.of_target hnow htarget
        have hcomes := comes_quiet hp hplain hgoal hfires (Nat.le_trans hle (Nat.le_max_left _ _))
          hquiet
        have hdone := Reissued.done hcomes rfl
        rw [starts_seen] at hdone
        exact ⟨_, hdone, rfl⟩
      · obtain ⟨first, second, rfl, hlength⟩ : ∃ first second, timers = first ++ second ∧
            first.length = limit :=
          ⟨timers.take limit, timers.drop limit, (List.take_append_drop _ _).symm,
            List.length_take_of_le (Nat.le_of_not_le hle)⟩
        rw [List.length_append] at hcount hle
        obtain ⟨hfirst, hsecond⟩ := World.fires_append_iff.mp hfires
        cases second with
        | nil => exact absurd (Nat.le_of_eq hlength) hle
        | cons next rest =>
            have hnext : (world.forget.turns limit first).provider.next? (some target) = some next := by
              cases hsecond with
              | cons hnext _ _ => exact hnext
            obtain ⟨between, turn, hcomes, hresult, hstarts, hbetween⟩ :=
              comes_to_limit hlimit htarget hplain hnow hfirst hlength hnext
            -- what is left to start is started from there as well
            have honto : between.forget.onto (world.forget.turns limit first) =
                world.forget.turns limit first := by
              rw [hbetween]
              rfl
            have hsame : (between.forget.turns limit (next :: rest)).onto
                (world.forget.turns limit first) =
                world.forget.turns limit (first ++ next :: rest) := by
              rw [← World.turns_onto, honto, World.turns_append]
            have hforget' : between.forget.Obeys Action.isPlain := by
              rw [hbetween]
              exact World.Obeys.turns hp hplain hfirst
            have hplain' : between.Obeys Action.isPlain := hforget'
            have hnow' : between.provider.now ≤ target := by
              show between.forget.provider.now ≤ target
              rw [hbetween]
              exact hfirst.now_le hp hforget hnow
            rw [← honto] at hsecond
            rw [← hsame] at hquiet
            obtain ⟨world', hre, hworld'⟩ :=
              ih _ (by omega) hplain' hnow' hsecond.of_onto hquiet hforget' rfl
            refine ⟨world', ?_, ?_⟩
            · have hagain := Reissued.again hcomes hresult hre
              rw [← hsame, World.starts_onto, List.reverse_append, ← hstarts]
              exact hagain
            · rw [← hsame]
              exact hworld'

/-! ## A drain and a longer one -/

section Longer

variable {larger : Nat} {drain : Drain}

theorem refused_goal {now : Nat} {e : TimerError} (h : VirtualClock.Goal.of drain now = .error e) :
    ∃ delta, e = .clockOverflow now delta := by
  cases drain with
  | advance span =>
      simp only [VirtualClock.Goal.of] at h
      split at h
      · cases h
      · cases h
        exact ⟨_, rfl⟩
  | runDue => cases h
  | flush => cases h

/-- A list that is longer than a limit, cut around it. -/
theorem exists_cut {α : Type} {timers : List α} (hlimit : 1 ≤ limit) (hlt : limit < timers.length) :
    ∃ init last next rest, timers = init ++ [last] ++ next :: rest ∧ init.length + 1 = limit := by
  obtain ⟨k, rfl⟩ := Nat.exists_eq_add_of_le' hlimit
  refine ⟨timers.take k, timers[k], timers[k + 1], timers.drop (k + 2), ?_, ?_⟩
  · rw [List.append_assoc, List.singleton_append, ← List.drop_eq_getElem_cons,
      ← List.drop_eq_getElem_cons, List.take_append_drop]
  · rw [List.length_take_of_le (by omega)]

/-- What a drain with a limit is to one with a larger limit, in a world whose
callbacks neither drain nor throw. -/
theorem comes_with_larger (hlimit : 1 ≤ limit) (hlt : limit < larger) (drain : Drain)
    (hplain : world.Obeys Action.isPlain) {history : List (Happening (Handler TimerId))}
    (hreached : VirtualClock.Beats True ⟨.fresh, []⟩ history ⟨world.provider, []⟩) :
    ∃ stopped turn through longer,
      Comes (VirtualClock.provider limit) (.drain drain) world stopped turn ∧
      Comes (VirtualClock.provider larger) (.drain drain) world through longer ∧
      ((∃ k, turn.result = some (.answered (.error (.stepLimitExceeded k)))) ↔
        limit < longer.starts.length) ∧
      (limit < longer.starts.length →
        ∃ last next, CutShort limit larger drain world stopped turn longer last next) := by
  have hp : ∀ drain, Action.isPlain (.drain drain) = false := fun _ => rfl
  have hforget : world.forget.Obeys Action.isPlain := hplain
  have hclamp : VirtualClock.clampLimit limit = limit := Nat.max_eq_left hlimit
  have hclamp' : VirtualClock.clampLimit larger = larger := Nat.max_eq_left (by omega)
  cases hgoal : VirtualClock.Goal.of drain world.provider.now with
  | error e =>
      obtain ⟨delta, rfl⟩ := refused_goal hgoal
      refine ⟨_, _, _, _, comes_of_leads (Machine.leads_refused hgoal),
        comes_of_leads (Machine.leads_refused hgoal), ?_, ?_⟩
      · refine ⟨?_, fun h => absurd h (Nat.not_lt_zero _)⟩
        rintro ⟨k, hresult⟩
        cases hresult
      · exact fun h => absurd h (Nat.not_lt_zero _)
  | ok goal =>
      obtain ⟨timers, through, hfires, hthrough, hstarts, hend⟩ := exists_comes larger hplain hgoal
      have hlonger := starts_seen (VirtualClock.provider larger) through
      rw [hstarts] at hlonger
      have hcount : (seen (VirtualClock.provider larger) through).starts.length = timers.length := by
        obtain ⟨begun, hbegun, hlength⟩ := World.starts_turns hp hforget hfires
        rw [hlonger, hbegun, List.length_reverse, List.length_append, hlength]
        rfl
      by_cases hpast : limit < timers.length
      · obtain ⟨init, last, next, rest, rfl, rfl⟩ := exists_cut hlimit hpast
        obtain ⟨stopped, hcomes, hcut⟩ := exists_cutShort hplain hgoal hreached hclamp
          (by rw [hclamp']; exact hlt) hfires hlonger
        refine ⟨stopped, _, through, _, hcomes, hthrough, ?_, fun _ => ⟨last, next, hcut⟩⟩
        rw [hcount]
        exact ⟨fun _ => hpast, fun _ => ⟨_, hcut.result⟩⟩
      · have hquiet := hend.resolve_right (by rw [hclamp']; omega)
        obtain ⟨hfires', hmatch⟩ : World.Fires limit goal.deadline world.forget timers ∧
            World.Matches (world.forget.turns larger timers) (world.forget.turns limit timers) :=
          hfires.matches hp hforget (.refl world.forget)
        rw [← hmatch.provider] at hquiet
        have hcomes := comes_quiet hp hplain hgoal hfires' (by rw [hclamp]; omega) hquiet
        refine ⟨_, _, through, _, hcomes, hthrough, ?_, ?_⟩
        · rw [hcount]
          refine ⟨?_, fun h => absurd h hpast⟩
          rintro ⟨k, hresult⟩
          cases hresult
        · rw [hcount]
          exact fun h => absurd h hpast

end Longer

end Turn

namespace ClockSession

/-- What has led to where a session stands between two actions. -/
theorem beats_of_ended (limit : Nat) (globals : Globals) (actions : List (Action TimerId)) (n : Nat)
    (hended : ((fresh globals actions).after limit n).machine.ended?.isSome) :
    VirtualClock.Beats True ⟨.fresh, []⟩ ((fresh globals actions).history limit n)
      ⟨((fresh globals actions).after limit n).machine.world.provider, []⟩ := by
  have hbeats : VirtualClock.Beats True ⟨.fresh, []⟩ ((fresh globals actions).history limit n)
      (Session.site ((fresh globals actions).after limit n)) :=
    beats_after limit globals actions n (Or.inr trivial)
  have hsettled : ((fresh globals actions).after limit n).machine.Settled :=
    Session.settled_after (Session.settled_start _ _) n
  rw [Session.site, Machine.site, hsettled hended] at hbeats
  exact hbeats

/-- **A drain that comes to its step limit is a beginning that can be gone on
with.**  Wherever a session stands between two actions, if the callbacks that
wait neither drain nor throw, a drain comes to its limit just where a larger
limit lets more callbacks run; and then it has run the first callbacks of the
longer drain, and left all as it is there.  An advance that comes back well
under some limit can be made under any other, by issuing it again as long as
it comes to its limit: the same callbacks are started at the same times, and
the same world is left. -/
theorem step_limit_resumable {limit : Nat} (hlimit : 1 ≤ limit) (earlier : Nat) (globals : Globals)
    (actions : List (Action TimerId)) (n : Nat)
    (hended : ((fresh globals actions).after earlier n).machine.ended?.isSome)
    (hplain : ((fresh globals actions).after earlier n).machine.world.Obeys Action.isPlain) :
    let world := ((fresh globals actions).after earlier n).machine.world
    (∀ (drain : Drain) (larger : Nat), limit < larger → ∃ stopped turn through longer,
      Turn.Comes (VirtualClock.provider limit) (.drain drain) world stopped turn ∧
      Turn.Comes (VirtualClock.provider larger) (.drain drain) world through longer ∧
      ((∃ k, turn.result = some (.answered (.error (.stepLimitExceeded k)))) ↔
        limit < longer.starts.length) ∧
      (limit < longer.starts.length → ∃ last next,
        Turn.CutShort limit larger drain world stopped turn longer last next)) ∧
    ∀ (target larger : Nat) (whole : ClockWorld) (turn : Turn TimerId) (count : Nat),
      world.provider.now ≤ target → target < word64 →
      Turn.Comes (VirtualClock.provider larger)
        (.drain (.advance (.ofMillis (target - world.provider.now)))) world whole turn →
      turn.result = some (.answered (.ok (.ran count))) →
      ∃ last, Turn.Reissued limit target world turn.starts last ∧ last.forget = whole.forget := by
  intro world
  have hp : ∀ drain, Action.isPlain (.drain drain) = false := fun _ => rfl
  refine ⟨fun drain larger hlt => ?_, ?_⟩
  · exact Turn.comes_with_larger hlimit hlt drain hplain (beats_of_ended earlier globals actions n hended)
  · intro target larger whole turn count hnow htarget hcomes hresult
    have hforget : world.forget.Obeys Action.isPlain := hplain
    obtain ⟨goal, timers, hgoal, hfires, -, -, hquiet, hwhole⟩ := hcomes.fires hp hplain hresult
    rw [VirtualClock.Goal.of_target hnow htarget] at hgoal
    cases hgoal
    obtain ⟨hfires', hmatch⟩ : World.Fires limit (some target) world.forget timers ∧
        World.Matches (world.forget.turns larger timers) (world.forget.turns limit timers) :=
      hfires.matches hp hforget (.refl world.forget)
    rw [← hmatch.provider] at hquiet
    obtain ⟨last, hre, hlast⟩ :=
      Turn.reissued_of_fires hlimit htarget hplain hnow hfires' hquiet
    refine ⟨last, ?_, ?_⟩
    · have hstarts := Turn.starts_seen (VirtualClock.provider larger) whole
      rw [hcomes.leads.1, hstarts, hwhole]
      rw [hmatch.starts] at hre
      exact hre
    · have hmoved := congrArg (World.moved target) hmatch.forget
      rw [hwhole]
      exact hlast.trans hmoved

/-- A timer that repeats every ten milliseconds and does nothing. -/
def heartbeat : List (Action TimerId) := [.schedule .page .repeating (.ofMillis 10) none .idle]

/-- A flush of it comes to any limit; an advance by fifty milliseconds comes to
a limit of two, and again when it is issued again. -/
theorem heartbeat_cut_short :
    1 ≤ 2 ∧ ((fresh .empty heartbeat).after 2 5).machine.ended?.isSome ∧
    ((fresh .empty heartbeat).after 2 5).machine.world.Obeys Action.isPlain ∧
    (∃ stopped turn through longer last next,
      Turn.Comes (VirtualClock.provider 2) (.drain .flush)
        ((fresh .empty heartbeat).after 2 5).machine.world stopped turn ∧
      Turn.Comes (VirtualClock.provider 3) (.drain .flush)
        ((fresh .empty heartbeat).after 2 5).machine.world through longer ∧
      Turn.CutShort 2 3 .flush ((fresh .empty heartbeat).after 2 5).machine.world stopped turn longer
        last next) ∧
    ∃ starts last, starts.length = 5 ∧
      Turn.Reissued 2 50 ((fresh .empty heartbeat).after 2 5).machine.world starts last := by
  have hlimit : 1 ≤ 2 := by decide
  have hended : ((fresh .empty heartbeat).after 2 5).machine.ended?.isSome := by decide +kernel
  have hplain : ((fresh .empty heartbeat).after 2 5).machine.world.Obeys Action.isPlain := by
    intro t ht
    obtain rfl := List.mem_singleton.mp ht
    rfl
  obtain ⟨hshort, hagain⟩ := step_limit_resumable hlimit 2 .empty heartbeat 5 hended hplain
  refine ⟨hlimit, hended, hplain, ?_, ?_⟩
  · obtain ⟨stopped, turn, through, longer, hcomes, hthrough, -, hcut⟩ :=
      hshort .flush 3 (Nat.lt_succ_self 2)
    have htake : Turn.Comes (VirtualClock.provider 3) (.drain .flush)
        ((fresh .empty heartbeat).after 2 5).machine.world _ _ := ⟨20, rfl, by decide +kernel⟩
    have hpast : 2 < longer.starts.length := by
      rw [(htake.unique hthrough).2]
      decide +kernel
    obtain ⟨last, next, hcut⟩ := hcut hpast
    exact ⟨stopped, turn, through, longer, last, next, hcomes, hthrough, hcut⟩
  · have hnow : ((fresh .empty heartbeat).after 2 5).machine.world.provider.now = 0 := by
      decide +kernel
    have htake : Turn.Comes (VirtualClock.provider 10) (.drain (.advance (.ofMillis (50 - 0))))
        ((fresh .empty heartbeat).after 2 5).machine.world _ _ := ⟨40, rfl, by decide +kernel⟩
    rw [← hnow] at htake
    obtain ⟨last, hre, -⟩ := hagain 50 10 _ _ 5 (by decide +kernel) (by decide) htake (by rfl)
    exact ⟨_, last, by decide +kernel, hre⟩

end ClockSession

end PageTimers
