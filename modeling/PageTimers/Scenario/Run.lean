/-
# Running a scenario

A fresh page on a fresh virtual clock is taken through the steps, and the
page is looked at after each of them.  The only callbacks are assignments
to globals, so a drain is a plain recursion (`VirtualClock.drain`).
-/
import PageTimers.Page.Basic
import PageTimers.Provider.Virtual
import PageTimers.Scenario.Basic

namespace PageTimers

/-- How the page stands after a step. -/
structure StepReport where
  index : Nat
  step : String
  now : Nat
  /-- What is outstanding, in ascending order, once it is tracked. -/
  outstanding : Option (List TimerId)
  /-- How many timers wait. -/
  pending : Nat
  completed : Bool
  /-- The answer to a step that cancels. -/
  cancelled : Option Bool
  /-- How many callbacks a step that advances has run. -/
  fired : Option Nat
deriving DecidableEq, Repr

structure ScenarioReport where
  name : String
  steps : List StepReport
  labels : Fields TimerId
deriving Repr

namespace ScenarioReport

/-- Whether the page was complete in the end. -/
def completed (report : ScenarioReport) : Bool :=
  match report.steps.getLast? with
  | none => false
  | some step => step.completed

end ScenarioReport

/-- What the steps of a scenario act on. -/
structure Stage where
  clock : VirtualClock (Option Assignment)
  page : Page TimerId
  /-- The timers by their labels. -/
  labels : Fields TimerId
  /-- The journal, the latest event first. -/
  journal : List (Event TimerId)

namespace Stage

def fresh : Stage := ⟨.fresh, .attach .empty, [], [.pageAttached]⟩

def journaled (stage : Stage) (events : List (Event TimerId)) : Stage :=
  { stage with journal := events.reverse ++ stage.journal }

/-- Take over a page and the events that go with it. -/
def turnPage (stage : Stage) (change : Page TimerId × List (Event TimerId)) : Stage :=
  { stage with page := change.1 }.journaled change.2

/-- What the callback of a timer does to the page. -/
def assign (assignment : Option Assignment) (page : Page TimerId) : Page TimerId :=
  match assignment with
  | none => page
  | some a => { page with globals := page.globals.set a.name a.value }

/-- Schedule a timer through the page and give it a label. -/
def schedule (kind : TimerKind) (label : String) (delay : UInt64) (sets : Option Assignment)
    (stage : Stage) : Stage :=
  let (id, clock) := stage.clock.schedule kind sets (.ofMillis delay.toNat)
  { stage with clock := clock, labels := stage.labels.insert label id }.turnPage
    (stage.page.noteScheduled kind id)

/-- Cancel a timer through the page. -/
def cancel (kind : TimerKind) (id : TimerId) (stage : Stage) : Bool × Stage :=
  let (found, clock) := stage.clock.cancel id
  (found, { stage with clock := clock }.turnPage (stage.page.noteCleared kind id found))

/-- The timer with a label. -/
def labelled (label : String) (stage : Stage) : Except ScenarioError TimerId :=
  match stage.labels.get? label with
  | some id => .ok id
  | none => .error (.unknownLabel label)

end Stage

/-- What a step tells besides how the page stands after it. -/
structure StepAnswer where
  cancelled : Option Bool := none
  fired : Option Nat := none

/-- A stage, and what came of the steps that led there. -/
structure Staged (α : Type) where
  stage : Stage
  result : Except ScenarioError α

namespace Step

/-- The cancelling steps. -/
def cancelAs (kind : TimerKind) (id : Except ScenarioError TimerId) (stage : Stage) :
    Staged StepAnswer :=
  match id with
  | .error e => ⟨stage, .error e⟩
  | .ok id =>
    let (found, stage) := stage.cancel kind id
    ⟨stage, .ok { cancelled := some found }⟩

/-- Apply a step. -/
def apply (settings : Settings) (step : Step) (stage : Stage) : Staged StepAnswer :=
  match step with
  | installInterceptor => ⟨stage.turnPage stage.page.installInterceptor, .ok {}⟩
  | installMonitor =>
    ⟨stage.turnPage (stage.page.installConfigured settings.completion), .ok {}⟩
  | scheduleOnce label delay sets => ⟨stage.schedule .once label delay sets, .ok {}⟩
  | scheduleRepeating label period => ⟨stage.schedule .repeating label period none, .ok {}⟩
  | cancelOnce label => cancelAs .once (stage.labelled label) stage
  | cancelRepeating label => cancelAs .repeating (stage.labelled label) stage
  | cancelId id => cancelAs .once (.ok ⟨id.toNat⟩) stage
  | setGlobal name value =>
    ⟨{ stage with page.globals := stage.page.globals.set name value }, .ok {}⟩
  | advance ms =>
    let drained := stage.clock.drain settings.virtualClock.stepLimit.toNat Stage.assign
      (.advance (.ofMillis ms.toNat)) stage.page stage.journal
    let stage :=
      { stage with clock := drained.clock, page := drained.world, journal := drained.journal }
    match drained.result with
    | .error e => ⟨stage, .error (.timer e)⟩
    | .ok ran => ⟨stage, .ok { fired := some ran }⟩

/-- How the page stands after a step. -/
def report (index : Nat) (step : Step) (answer : StepAnswer) (stage : Stage) : StepReport where
  index := index
  step := step.describe
  now := stage.clock.now
  outstanding := stage.page.outstanding.map (·.sorted)
  pending := stage.clock.queue.length
  completed := stage.page.completed
  cancelled := answer.cancelled
  fired := answer.fired

/-- What the report of a step leaves in the journal: the probes asked for
it, and the step itself. -/
def reportEvents (report : StepReport) (stage : Stage) : List (Event TimerId) :=
  stage.page.askedEvents ++
    [.stepApplied report.index report.step report.outstanding report.completed]

end Step

namespace Scenario

/-- Apply steps one after the other, the first of them under the number
`index`. -/
def steps? (settings : Settings) : (index : Nat) → List Step → Stage → Staged (List StepReport)
  | _, [], stage => ⟨stage, .ok []⟩
  | index, step :: rest, stage =>
    let applied := step.apply settings stage
    match applied.result with
    | .error e => ⟨applied.stage, .error e⟩
    | .ok answer =>
      let report := step.report index answer applied.stage
      let later := steps? settings (index + 1) rest
        (applied.stage.journaled (Step.reportEvents report applied.stage))
      ⟨later.stage, later.result.map (report :: ·)⟩

/-- What a run leaves behind: its journal in order, and its report. -/
structure Outcome where
  journal : List (Event TimerId)
  result : Except ScenarioError ScenarioReport

/-- Run a scenario that was found to make sense. -/
def perform (settings : Settings) (scenario : Scenario) : Outcome :=
  let stage := Stage.fresh.journaled [.scenarioStarted scenario.name scenario.steps.length]
  let staged := steps? settings 0 scenario.steps stage
  match staged.result with
  | .error e => ⟨staged.stage.journal.reverse, .error e⟩
  | .ok steps =>
    let report : ScenarioReport := ⟨scenario.name, steps, staged.stage.labels⟩
    let last := Event.scenarioFinished report.name report.completed
    ⟨(last :: staged.stage.journal).reverse, .ok report⟩

/-- Run a scenario; one that makes no sense is not begun. -/
def run (settings : Settings) (scenario : Scenario) : Outcome :=
  match scenario.validate with
  | .error e => ⟨[], .error e⟩
  | .ok () => scenario.perform settings

end Scenario

end PageTimers
