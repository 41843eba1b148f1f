/-
# Sessions on tasks

A harness that acts step by step on a page whose timers are tasks.  After
each step, everything that is due has run.  Callbacks have a name, may set a
global, and may throw on one of their runs; they do not touch timers.
-/
import PageTimers.Program.Action
import PageTimers.Provider.Tasks
import PageTimers.Scenario.Basic

namespace PageTimers

/-- What the callback of a task does. -/
structure TaskCallback where
  name : String
  sets : Option Assignment
  /-- The run, counted from one, on which it throws. -/
  throwsOn : Option Nat

/-- One run of a callback: when, of which name, and the how manieth. -/
structure TaskRun where
  now : Nat
  name : String
  number : Nat
deriving DecidableEq, Repr

/-- Runs in the order of time, then of names, then of numbers. -/
def TaskRun.le (a b : TaskRun) : Bool :=
  a.now < b.now || (a.now == b.now &&
    (a.name < b.name || (a.name == b.name && a.number ≤ b.number)))

inductive TaskStep
  | installInterceptor
  | installMonitor (settings : Except DecodeError CompletionSettings)
  | schedule (kind : TimerKind) (delay : Duration) (callback : TaskCallback)
  | clear (kind : TimerKind) (id : TimerId)
  | sleep (ms : Nat)
  /-- Let go of the page and its provider. -/
  | drop

/-- What callbacks act on. -/
structure TaskPage where
  page : Page TimerId
  /-- The runs so far, the latest first. -/
  runs : List TaskRun

structure TaskWorld where
  clock : TaskClock TaskCallback
  page : Page TimerId
  dropped : Bool
  /-- The runs of the present step, the latest first. -/
  runs : List TaskRun
  /-- The journal of the present step, the latest event first. -/
  journal : List (Event TimerId)

/-- What a step did, and how the page stands after it. -/
structure TaskTurn where
  result : Result TimerId
  now : Nat
  runs : List TaskRun
  journal : List (Event TimerId)
  /-- Unless the page was dropped: how many tasks there are, what is
  outstanding, and whether the page is complete. -/
  state : Option (Nat × Option (List TimerId) × Bool)

namespace TaskCallback

/-- Run a callback that ran `count` times before. -/
def call (callback : TaskCallback) (now count : Nat) (world : TaskPage) : Ended × TaskPage :=
  let page := match callback.sets with
    | none => world.page
    | some a => { world.page with globals := world.page.globals.set a.name a.value }
  (if callback.throwsOn = some (count + 1) then .thrown else .returned,
    ⟨page, ⟨now, callback.name, count + 1⟩ :: world.runs⟩)

end TaskCallback

namespace TaskWorld

/-- A page that has just been attached. -/
def fresh : TaskWorld := ⟨.fresh, .attach .empty, false, [], [.pageAttached]⟩

def journaled (world : TaskWorld) (events : List (Event TimerId)) : TaskWorld :=
  { world with journal := events.reverse ++ world.journal }

def turnPage (world : TaskWorld) (change : Page TimerId × List (Event TimerId)) : TaskWorld :=
  { world with page := change.1 }.journaled change.2

/-- Let time pass. -/
def sleep (span : Nat) (world : TaskWorld) : TaskWorld :=
  let woken := world.clock.sleep TaskCallback.call span ⟨world.page, world.runs⟩ world.journal
  { world with
    clock := woken.clock
    page := woken.world.page
    runs := woken.world.runs
    journal := woken.journal }

/-- Apply a step, and run what is due after it. -/
def apply (step : TaskStep) (world : TaskWorld) : TaskWorld × Result TimerId :=
  match step with
  | .installInterceptor =>
    let before := world.page.isIntercepted
    let world := world.turnPage world.page.installInterceptor
    (world.sleep 0,
      .intercepted before ((world.page.outstanding.map (·.sorted)).getD []))
  | .installMonitor (.error e) => (world.sleep 0, .refused e)
  | .installMonitor (.ok settings) =>
    let world := world.turnPage (world.page.installConfigured settings)
    (world.sleep 0, .monitored (world.page.probeNames?.getD []))
  | .schedule kind delay callback =>
    let (id, clock) := world.clock.schedule kind callback delay
    let world := { world with clock := clock }.turnPage (world.page.noteScheduled kind id)
    (world.sleep 0, .answered (.ok (.scheduled id)))
  | .clear kind id =>
    let (found, clock) := world.clock.cancel id
    let world := { world with clock := clock }.journaled [TaskClock.cancelEvent kind id found]
    ((world.turnPage (world.page.noteCleared kind id found)).sleep 0,
      .answered (.ok (.cleared found)))
  | .sleep ms => (world.sleep ms, .done)
  | .drop => ({ world with clock := world.clock.stopAll, dropped := true }, .done)

/-- Apply a step and look at the page. -/
def take (step : TaskStep) (world : TaskWorld) : TaskWorld × TaskTurn :=
  let (world, result) := world.apply step
  ({ world with runs := [], journal := [] },
    { result := result
      now := world.clock.now
      runs := world.runs.mergeSort TaskRun.le
      journal := world.journal.reverse
      state :=
        if world.dropped then none
        else some (world.clock.active, world.page.outstanding.map (·.sorted),
          world.page.completed) })

/-- Apply one step after the other. -/
def takeAll : List TaskStep → TaskWorld → List TaskTurn
  | [], _ => []
  | step :: rest, world =>
    let (world, turn) := world.take step
    turn :: takeAll rest world

end TaskWorld

end PageTimers
