/-
# Drains that are a plain recursion

The machine takes a drain apart.  It starts a callback, does its actions one by
one with the drain on the stack below, and goes on with the drain when the
callback has returned.  `VirtualClock.drain` does all of that in one recursion;
it may, since its callbacks change a page and do not come near the clock.

Where the callbacks of a program are of this kind (`ActsOnPage`), the two come
to the same: the same timers fire, and the clock, the page, the journal and the
answer are the same when the drain is over, whether it ends well, meets its
limit or is refused.  It makes no difference who drains and what waits below
(`leads_drain`).
-/
import PageTimers.Proofs.Clock.Opacity
import PageTimers.Proofs.Clock.Passing
import PageTimers.Proofs.Program.Drain

namespace PageTimers

/-- Callbacks that do nothing but change the page.  There is one for each value:
`script` is the program that it runs, and `call` what that makes of a page. -/
structure ActsOnPage {α : Type} (limit : Nat) (call : α → Page TimerId → Page TimerId)
    (script : α → Handler TimerId) : Prop where
  undrained : ∀ a count, ∀ action ∈ (script a).actions count, action.isDrain = false
  returns : ∀ a count, ∀ action ∈ (script a).actions count, action.isThrow = false
  enact : ∀ a count caller (world : ClockWorld), ∃ log,
    world.enact limit caller ((script a).actions count) =
      { world with page := call a world.page, log := log }

/-- The world that a drain leaves, where its timers run these programs. -/
def VirtualClock.Drained.toWorld {α : Type} (script : α → Handler TimerId)
    (drained : Drained α (Page TimerId)) (names : Fields TimerId) (log : List (Entry TimerId)) :
    ClockWorld :=
  ⟨drained.clock.map script, drained.world, names, log, drained.journal⟩

namespace ActsOnPage

variable {α : Type} {limit : Nat} {call : α → Page TimerId → Page TimerId}
  {script : α → Handler TimerId} {names : Fields TimerId}
  {w : Waiting (VirtualClock.UnderWay (Handler TimerId)) TimerId}
  {stack : List (Waiting (VirtualClock.UnderWay (Handler TimerId)) TimerId ×
    VirtualClock.UnderWay (Handler TimerId))}

section World

variable (h : ActsOnPage limit call script) (clock : VirtualClock α) (page : Page TimerId)
  (log : List (Entry TimerId)) (journal : List (Event TimerId))

include h

/-- A turn of the machine is one of the recursion. -/
theorem turn (timer : QueuedTimer α) : ∃ log',
    World.turn limit ⟨clock.map script, page, names, log, journal⟩ (timer.map script) =
      ⟨(clock.afterTurn timer).map script, call timer.callback page, names, log',
        VirtualClock.startEvent timer clock :: journal⟩ := by
  obtain ⟨log', henact⟩ := h.enact timer.callback timer.runs (.callback (some timer.id))
    (World.startCallback ⟨clock.map script, page, names, log, journal⟩ (timer.map script))
  refine ⟨log', ?_⟩
  have hscript : (timer.map script).script = (script timer.callback).actions timer.runs := rfl
  have hclock : ((clock.map script).start (timer.map script)).finish (timer.map script) =
      (clock.afterTurn timer).map script := by
    rw [VirtualClock.start_map, VirtualClock.finish_map]
    rfl
  rw [World.turn, hscript, show (timer.map script).id = timer.id from rfl, henact, ← hclock]
  rfl

/-- From any turn on, the drain comes to what the recursion says. -/
theorem leads_turns (goal : VirtualClock.Goal) (left ran : Nat) : ∃ log',
    let drained := VirtualClock.turns call goal left ran clock page journal
    Machine.Leads (VirtualClock.provider limit)
      (.continuing limit w stack goal left ran ⟨clock.map script, page, names, log, journal⟩)
      ⟨Machine.answered (drained.toWorld script names log') w (drained.result.map .ran),
        .run w.caller w.rest, stack⟩ := by
  have hmap : ∀ clock : VirtualClock α, (clock.map script).next? goal.deadline =
      (clock.next? goal.deadline).map (.map script) :=
    fun clock => VirtualClock.next?_map goal.deadline
  induction left, ran, clock, page, journal using VirtualClock.turns.induct call goal
    generalizing log with
  | case1 left ran clock page journal hnext =>
      refine ⟨log, ?_⟩
      rw [Machine.continuing_quiet ((hmap clock).trans (congrArg _ hnext)),
        VirtualClock.turns_none goal call left ran page journal hnext]
      cases goal <;> exact .refl _
  | case2 ran clock page journal timer hnext =>
      refine ⟨log, ?_⟩
      rw [Machine.continuing_limited ((hmap clock).trans (congrArg _ hnext)),
        VirtualClock.turns_limited goal call ran page journal hnext]
      exact .refl _
  | case3 ran clock page journal timer hnext left ih =>
      obtain ⟨log₁, hworld⟩ := h.turn clock page log journal timer
      have hturn : Machine.Leads (VirtualClock.provider limit)
          (.continuing limit w stack goal (left + 1) ran
            ⟨clock.map script, page, names, log, journal⟩)
          (.continuing limit w stack goal left (ran + 1)
            (World.turn limit ⟨clock.map script, page, names, log, journal⟩ (timer.map script))) :=
        Machine.continuing_turn ((hmap clock).trans (congrArg _ hnext))
          (h.undrained timer.callback timer.runs) (h.returns timer.callback timer.runs)
      rw [hworld] at hturn
      obtain ⟨log₂, hrest⟩ := ih log₁
      refine ⟨log₂, ?_⟩
      rw [VirtualClock.turns_turn goal call left ran page journal hnext]
      exact hturn.trans hrest

/-- A drain comes to what the recursion says, whoever asks for it and whatever
waits below. -/
theorem leads_drain (names : Fields TimerId) (request : Drain) (caller : Caller TimerId)
    (rest : List (Action TimerId))
    (stack : List (Waiting (VirtualClock.UnderWay (Handler TimerId)) TimerId ×
      VirtualClock.UnderWay (Handler TimerId))) : ∃ log',
    let drained := VirtualClock.drain limit call request clock page journal
    Machine.Leads (VirtualClock.provider limit)
      ⟨⟨clock.map script, page, names, log, journal⟩, .run caller (.drain request :: rest), stack⟩
      ⟨(drained.toWorld script names log').record
          (.did caller (.drain request) (.answered (drained.result.map .ran))),
        .run caller rest, stack⟩ := by
  have hstep := Machine.leads_step (P := VirtualClock.provider limit)
    ⟨⟨clock.map script, page, names, log, journal⟩, .run caller (.drain request :: rest), stack⟩
  have hnow : (clock.map script).now = clock.now := rfl
  simp only [Machine.step, Machine.plan, VirtualClock.provider, VirtualClock.ask, hnow] at hstep
  rw [VirtualClock.drain]
  cases hgoal : VirtualClock.Goal.of request clock.now with
  | error e =>
      rw [hgoal] at hstep
      exact ⟨log, hstep⟩
  | ok goal =>
      rw [hgoal] at hstep
      obtain ⟨log', hturns⟩ := h.leads_turns clock page log journal goal
        (VirtualClock.clampLimit limit) 0
      exact ⟨log', hstep.trans hturns⟩

end World

/-- As the harness sees it, the drain comes back in the world that the recursion
leaves. -/
theorem comes_drain (h : ActsOnPage limit call script) (clock : VirtualClock α)
    (page : Page TimerId) (request : Drain) {world : ClockWorld}
    (hworld : world.forget = ⟨clock.map script, page, names, [], []⟩) : ∃ log,
    let drained := VirtualClock.drain limit call request clock page []
    let last := (drained.toWorld script names log).answerDrain request (drained.result.map .ran)
    Turn.Comes (VirtualClock.provider limit) (.drain request) world last
      (.seen (VirtualClock.provider limit) last) := by
  obtain ⟨log, hdrain⟩ := h.leads_drain clock page [] [] names request .harness [] []
  rw [← hworld] at hdrain
  exact ⟨log, Turn.comes_of_leads (hdrain.trans Machine.leads_halt)⟩

end ActsOnPage

end PageTimers
