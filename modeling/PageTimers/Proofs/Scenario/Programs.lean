/-
# Scenarios are page programs

Every step of a scenario is an action that a harness could take on a page of its
own (`Step.action`): labels become names of timers, and the assignment of a
one-shot timer becomes the program of its callback.  The stage of a scenario is
then a world of such a program (`Stage.world`), and

    take the step, look at the stage   =   let the harness act, look at the page

for each step (`Step.comes`) and so for whole runs (`run_as_program`).  So what
is known of programs, of the order in which timers fire or of what is
outstanding, is known of scenarios too, and a report of a scenario is what a
harness would see.
-/
import PageTimers.Proofs.Program.Recursion
import PageTimers.Proofs.Scenario.Checking

namespace PageTimers

/-! ## Steps as actions -/

/-- The program of a callback that makes an assignment. -/
def Handler.assigning : Option Assignment → Handler TimerId
  | none => .idle
  | some a => .mk false [] [.setGlobal a.name a.value]

/-- What a step does, as an action. -/
def Step.action (settings : CompletionSettings) : Step → Action TimerId
  | installInterceptor => .installInterceptor
  | installMonitor => .installMonitor (.ok settings)
  | scheduleOnce label delay sets =>
    .schedule .page .once (.ofMillis delay.toNat) (some label) (.assigning sets)
  | scheduleRepeating label period =>
    .schedule .page .repeating (.ofMillis period.toNat) (some label) (.assigning none)
  | cancelOnce label => .clear .page .once (.named label)
  | cancelRepeating label => .clear .page .repeating (.named label)
  | cancelId id => .clear .page .once (.id ⟨id.toNat⟩)
  | setGlobal name value => .setGlobal name value
  | advance ms => .drain (.advance (.ofMillis ms.toNat))

/-- The world of a program that stands where a scenario does, nothing recorded. -/
def Stage.world (stage : Stage) : ClockWorld :=
  ⟨stage.clock.map .assigning, stage.page, stage.labels, [], []⟩

/-- Assignments change the page and nothing else. -/
theorem Stage.assign_actsOnPage (limit : Nat) : ActsOnPage limit assign Handler.assigning where
  undrained a count action haction := by
    cases a with
    | none => cases haction
    | some a =>
        cases List.mem_singleton.mp haction
        rfl
  returns a count action haction := by
    cases a with
    | none => cases haction
    | some a =>
        cases List.mem_singleton.mp haction
        rfl
  enact a count caller world := by
    cases a with
    | none => exact ⟨world.log, rfl⟩
    | some a => exact ⟨_, rfl⟩

/-- What came of an action, as the answer of a step. -/
inductive Result.Tells : Result TimerId → Except ScenarioError StepAnswer → Prop
  | intercepted (before : Bool) (outstanding : List TimerId) :
      Tells (.intercepted before outstanding) (.ok {})
  | monitored (probes : List String) : Tells (.monitored probes) (.ok {})
  | scheduled (id : TimerId) : Tells (.answered (.ok (.scheduled id))) (.ok {})
  | cleared (found : Bool) :
      Tells (.answered (.ok (.cleared found))) (.ok { cancelled := some found })
  | ran (count : Nat) : Tells (.answered (.ok (.ran count))) (.ok { fired := some count })
  | done : Tells .done (.ok {})
  | unresolved (label : String) : Tells .unresolved (.error (.unknownLabel label))
  | failed (error : TimerError) : Tells (.answered (.error error)) (.error (.timer error))

/-- The harness acts, and comes to where the step leads. -/
structure Turn.Follows (limit : Nat) (action : Action TimerId) (stage : Stage)
    (staged : Staged StepAnswer) (world world' : ClockWorld) (turn : Turn TimerId) : Prop where
  comes : Comes (VirtualClock.provider limit) action world world' turn
  world : world'.forget = staged.stage.world
  journal : staged.stage.journal = turn.journal.reverse ++ stage.journal
  result : ∃ result, turn.result = some result ∧ result.Tells staged.result

namespace Step

variable {settings : Settings} {limit : Nat} {action : Action TimerId} {stage : Stage}
  {staged : Staged StepAnswer} {result : Result TimerId} {world : ClockWorld}
  {log : List (Entry TimerId)} {events : List (Event TimerId)}

/-- What is not a drain is done at once. -/
theorem follows_act (hworld : world.forget = stage.world) (hdrain : action.isDrain = false)
    (hthrow : action.isThrow = false) (hact : World.act limit .harness stage.world action =
      { staged.stage.world with log := [.did .harness action result], journal := events })
    (hjournal : staged.stage.journal = events ++ stage.journal)
    (hresult : result.Tells staged.result) :
    ∃ world' turn, Turn.Follows limit action stage staged world world' turn := by
  have hcomes : Turn.Comes (VirtualClock.provider limit) action world
      (World.act limit .harness world.forget action) _ := Turn.comes_act hdrain hthrow
  rw [hworld, hact] at hcomes
  refine ⟨_, _, hcomes, rfl, ?_, result, rfl, hresult⟩
  rw [hjournal]
  exact congrArg (· ++ _) (List.reverse_reverse _).symm

theorem follows_schedule (hworld : world.forget = stage.world) (kind : TimerKind) (label : String)
    (delay : UInt64) (sets : Option Assignment) : ∃ world' turn, Turn.Follows limit
      (.schedule .page kind (.ofMillis delay.toNat) (some label) (.assigning sets)) stage
      ⟨stage.schedule kind label delay sets, .ok {}⟩ world world' turn := by
  obtain ⟨clock, ⟨globals, flags, outstanding, monitor⟩, labels, journal⟩ := stage
  cases outstanding with
  | none => exact follows_act hworld rfl rfl rfl rfl (.scheduled _)
  | some set => exact follows_act hworld rfl rfl rfl rfl (.scheduled _)

theorem follows_cancel (hworld : world.forget = stage.world) (kind : TimerKind)
    {target : Target TimerId} {id : TimerId}
    (hresolve : stage.world.resolve .harness target = some id) :
    ∃ world' turn, Turn.Follows limit (.clear .page kind target) stage
      (cancelAs kind (.ok id) stage) world world' turn := by
  have hask : (VirtualClock.provider limit).ask (.clear kind id) stage.world.provider =
      VirtualClock.mapMove .assigning (VirtualClock.ask limit (.clear kind id) stage.clock) :=
    VirtualClock.ask_map limit (.clear kind id)
  have hact : World.act limit .harness stage.world (.clear .page kind target) =
      (Machine.settle (VirtualClock.provider limit) stage.world
        ⟨.harness, .clear .page kind target, .clear kind id, stage.page.isIntercepted, []⟩ []
        (VirtualClock.mapMove .assigning
          (VirtualClock.ask limit (.clear kind id) stage.clock))).world := by
    rw [← hask]
    simp only [World.act, Machine.step, Machine.plan, hresolve]
    rfl
  obtain ⟨clock, ⟨globals, flags, outstanding, monitor⟩, labels, journal⟩ := stage
  cases outstanding with
  | none => exact follows_act hworld rfl rfl hact rfl (.cleared _)
  | some set => exact follows_act hworld rfl rfl hact rfl (.cleared _)

theorem follows_unresolved (hworld : world.forget = stage.world) (kind : TimerKind)
    {target : Target TimerId} (label : String)
    (hresolve : stage.world.resolve .harness target = none) :
    ∃ world' turn, Turn.Follows limit (.clear .page kind target) stage
      (cancelAs kind (.error (.unknownLabel label)) stage) world world' turn := by
  have hact : World.act limit .harness stage.world (.clear .page kind target) =
      { stage.world with
        log := [.did .harness (.clear .page kind target) .unresolved]
        journal := [] } := by
    simp only [World.act, Machine.step, Machine.plan, hresolve]
    rfl
  exact follows_act hworld rfl rfl hact rfl (.unresolved label)

theorem follows_labelled (hworld : world.forget = stage.world) (kind : TimerKind) (label : String) :
    ∃ world' turn, Turn.Follows limit (.clear .page kind (.named label)) stage
      (cancelAs kind (stage.labelled label) stage) world world' turn := by
  rw [Stage.labelled]
  cases hlabel : stage.labels.get? label with
  | none => exact follows_unresolved hworld kind label hlabel
  | some id => exact follows_cancel hworld kind hlabel

theorem follows_advance (hworld : world.forget = stage.world) (ms : UInt64) : ∃ world' turn,
    Turn.Follows settings.virtualClock.stepLimit.toNat (.drain (.advance (.ofMillis ms.toNat)))
      stage ((advance ms).apply settings stage) world world' turn := by
  obtain ⟨log, hcomes⟩ :=
    (Stage.assign_actsOnPage settings.virtualClock.stepLimit.toNat).comes_drain stage.clock
      stage.page (.advance (.ofMillis ms.toNat)) hworld
  rw [apply_advance, Stage.drained, VirtualClock.drain_journal]
  -- Both sides speak of one drain, and what it does is of no account.
  generalize VirtualClock.drain _ Stage.assign (.advance (.ofMillis ms.toNat)) stage.clock
    stage.page [] = drained at hcomes ⊢
  obtain ⟨clock, page, journal, outcome⟩ := drained
  refine ⟨_, _, hcomes, rfl, ?_, _, rfl, ?_⟩
  · exact congrArg (· ++ stage.journal) (List.reverse_reverse journal).symm
  · cases outcome with
    | ok count => exact .ran count
    | error e => exact .failed e

/-- Every step leads to where its action does. -/
theorem comes (settings : Settings) (hworld : world.forget = stage.world) (step : Step) :
    ∃ world' turn, Turn.Follows settings.virtualClock.stepLimit.toNat
      (step.action settings.completion) stage (step.apply settings stage) world world' turn := by
  cases step with
  | installInterceptor =>
      refine follows_act hworld rfl rfl rfl ?_ (.intercepted _ _)
      exact congrArg (· ++ stage.journal) (List.append_nil _).symm
  | installMonitor =>
      refine follows_act hworld rfl rfl rfl ?_ (.monitored _)
      exact congrArg (· ++ stage.journal) (List.append_nil _).symm
  | scheduleOnce label delay sets => exact follows_schedule hworld .once label delay sets
  | scheduleRepeating label period => exact follows_schedule hworld .repeating label period none
  | cancelOnce label => exact follows_labelled hworld .once label
  | cancelRepeating label => exact follows_labelled hworld .repeating label
  | cancelId id => exact follows_cancel hworld .once rfl
  | setGlobal name value => exact follows_act hworld rfl rfl rfl rfl .done
  | advance ms => exact follows_advance hworld ms

end Step

/-! ## Runs as programs -/

/-- The harness sees what is reported of a step. -/
structure Turn.Shows (turn : Turn TimerId) (report : StepReport) : Prop where
  ended : turn.ended = some .returned
  now : turn.now = report.now
  outstanding : turn.outstanding = report.outstanding
  pending : turn.pending.length = report.pending
  completed : turn.completed = report.completed
  result : ∃ result, turn.result = some result ∧
    result.Tells (.ok ⟨report.cancelled, report.fired⟩)

/-- Turn after turn the harness sees what is reported, as far as it is; and where
an error is the end, it sees that. -/
inductive Turn.Agree : List (Turn TimerId) → Except ScenarioError (List StepReport) → Prop
  | done : Agree [] (.ok [])
  | next {turn : Turn TimerId} {turns : List (Turn TimerId)} {report : StepReport}
      {reports : Except ScenarioError (List StepReport)} :
      turn.Shows report → Agree turns reports → Agree (turn :: turns) (reports.map (report :: ·))
  | failed {turn : Turn TimerId} {result : Result TimerId} {error : ScenarioError}
      (turns : List (Turn TimerId)) : turn.ended = some .returned →
      turn.result = some result → result.Tells (.error error) → Agree (turn :: turns) (.error error)

theorem Turn.Follows.shows {limit : Nat} {action : Action TimerId} {stage : Stage}
    {staged : Staged StepAnswer} {world world' : ClockWorld} {turn : Turn TimerId}
    (h : Turn.Follows limit action stage staged world world' turn) {answer : StepAnswer}
    (hanswer : staged.result = .ok answer) (index : Nat) (step : Step) :
    turn.Shows (step.report index answer staged.stage) := by
  obtain ⟨rfl, -⟩ := h.comes.leads
  have hprovider : world'.provider = staged.stage.clock.map .assigning :=
    congrArg World.provider h.world
  have hpage : world'.page = staged.stage.page := congrArg World.page h.world
  constructor
  case ended => rfl
  case now => exact congrArg VirtualClock.now hprovider
  case outstanding => exact congrArg (fun page => page.outstanding.map (·.sorted)) hpage
  case completed => exact congrArg Page.completed hpage
  case pending =>
    show (world'.provider.pending.map QueuedTimer.toPending).length =
      staged.stage.clock.queue.length
    rw [hprovider, List.length_map, VirtualClock.pending, List.length_mergeSort]
    exact List.length_map _
  case result =>
    have htold := h.result
    rw [hanswer] at htold
    exact htold

namespace Scenario

variable {scenario : Scenario}

theorem agree_steps? (settings : Settings) (steps : List Step) (index : Nat) (stage : Stage)
    {world : ClockWorld} (hworld : world.forget = stage.world) : ∃ enough, ∀ fuel, enough ≤ fuel →
      Turn.Agree (Turn.takeAll (VirtualClock.provider settings.virtualClock.stepLimit.toNat) fuel
        (steps.map (Step.action settings.completion)) world)
        (steps? settings index steps stage).result := by
  induction steps generalizing index stage world with
  | nil => exact ⟨0, fun _ _ => .done⟩
  | cons step steps ih =>
      obtain ⟨world', turn, hfollows⟩ := Step.comes settings hworld step
      obtain ⟨enough, htake⟩ := hfollows.comes.eventually
      cases hanswer : (step.apply settings stage).result with
      | error e =>
          refine ⟨enough, ?_⟩
          intro fuel hle
          obtain ⟨result, hresult, htells⟩ := hfollows.result
          rw [hanswer] at htells
          rw [List.map_cons, Turn.takeAll_cons, htake fuel hle, steps?_cons_of_error hanswer]
          obtain ⟨_, -, hended⟩ := hfollows.comes
          exact .failed _ hended hresult htells
      | ok answer =>
          obtain ⟨later, hlater⟩ := ih (index + 1)
            (reported index step answer (step.apply settings stage).stage) hfollows.world
          refine ⟨max enough later, ?_⟩
          intro fuel hle
          rw [List.map_cons, Turn.takeAll_cons, htake fuel (Nat.le_trans (Nat.le_max_left _ _) hle),
            steps?_cons_of_ok hanswer]
          exact .next (hfollows.shows hanswer index step)
            (hlater fuel (Nat.le_trans (Nat.le_max_right _ _) hle))

/-- **A scenario is a page program.**  Given time, a harness that takes its steps
as actions, on a bare page with a fresh clock, sees turn by turn what the run of
the scenario reports; and where the run ends with an error, the harness is told
of it at that turn. -/
theorem run_as_program (settings : Settings) (hvalid : scenario.validate = .ok ()) :
    ∃ enough, ∀ fuel, enough ≤ fuel →
      Turn.Agree (Turn.takeAll (VirtualClock.provider settings.virtualClock.stepLimit.toNat) fuel
        (scenario.steps.map (Step.action settings.completion)) (.start .fresh .empty))
        ((scenario.run settings).result.map (·.steps)) := by
  have hfresh : World.forget (.start .fresh .empty : ClockWorld) =
      (Stage.fresh.journaled [.scenarioStarted scenario.name scenario.steps.length]).world := rfl
  obtain ⟨enough, hagree⟩ := agree_steps? settings scenario.steps 0 _ hfresh
  refine ⟨enough, ?_⟩
  intro fuel hle
  have hresult : (scenario.run settings).result.map (·.steps) =
      (scenario.upTo settings scenario.steps.length).result := by
    rw [run_result hvalid]
    cases (scenario.upTo settings scenario.steps.length).result <;> rfl
  rw [hresult, upTo, List.take_length]
  exact hagree fuel hle

end Scenario

end PageTimers
