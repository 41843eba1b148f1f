/-
# Scenarios

A scenario is a script for a page: which timers it schedules and cancels,
what it publishes, and when time passes.  Timers are given labels, and a
step that cancels refers to one by its label or by its number.

A scenario makes sense if it has steps, no label is given twice, and no
label is used before it is given (`Scenario.validate`).
-/
import PageTimers.Json.Writer
import PageTimers.Timer

namespace PageTimers

/-- A global and the value it is set to. -/
structure Assignment where
  name : String
  value : Json
deriving Repr, Inhabited

inductive Step
  | installInterceptor
  | installMonitor
  /-- Schedule a one-shot timer, which may set a global when it fires. -/
  | scheduleOnce (label : String) (delay : UInt64) (sets : Option Assignment)
  | scheduleRepeating (label : String) (period : UInt64)
  | cancelOnce (label : String)
  | cancelRepeating (label : String)
  /-- Cancel a timer by its number, whether there is one or not. -/
  | cancelId (id : UInt64)
  | advance (ms : UInt64)
  | setGlobal (name : String) (value : Json)
deriving Repr, Inhabited

structure Scenario where
  name : String
  description : Option String
  steps : List Step
deriving Repr, Inhabited

namespace Step

/-- A step in words. -/
def describe : Step → String
  | installInterceptor => "install interceptor"
  | installMonitor => "install completion monitor"
  | scheduleOnce label delay _ => s!"schedule once {label} +{delay.toNat}ms"
  | scheduleRepeating label period => s!"schedule repeating {label} every {period.toNat}ms"
  | cancelOnce label => s!"cancel once {label}"
  | cancelRepeating label => s!"cancel repeating {label}"
  | cancelId id => s!"cancel id {id.toNat}"
  | advance ms => s!"advance {ms.toNat}ms"
  | setGlobal name value => s!"set {name} = {value.compact}"

/-- The label that a step gives to a timer. -/
def gives? : Step → Option String
  | scheduleOnce label .. => some label
  | scheduleRepeating label _ => some label
  | _ => none

/-- The label by which a step refers to a timer. -/
def uses? : Step → Option String
  | cancelOnce label => some label
  | cancelRepeating label => some label
  | _ => none

end Step

/-- Why a scenario cannot be run to its end. -/
inductive ScenarioError
  | unknownLabel (label : String)
  | duplicateLabel (label : String)
  /-- There are no steps. -/
  | empty
  | timer (error : TimerError)
deriving DecidableEq, Repr

def ScenarioError.message : ScenarioError → String
  | unknownLabel label => s!"Unknown timer label: {label}"
  | duplicateLabel label => s!"Timer label used twice: {label}"
  | empty => "Scenario has no steps"
  | timer error => s!"Timer error: {error.message}"

namespace Scenario

/-- Check labels step by step; `given` are the labels given so far. -/
def checkLabels : (given : List String) → List Step → Except ScenarioError Unit
  | _, [] => .ok ()
  | given, step :: rest =>
    match step.gives?, step.uses? with
    | some label, _ =>
      if given.contains label then .error (.duplicateLabel label)
      else checkLabels (label :: given) rest
    | none, some label =>
      if given.contains label then checkLabels given rest
      else .error (.unknownLabel label)
    | none, none => checkLabels given rest

/-- The first thing that is wrong with a scenario. -/
def validate (scenario : Scenario) : Except ScenarioError Unit :=
  if scenario.steps.isEmpty then .error .empty else checkLabels [] scenario.steps

end Scenario

end PageTimers
