/-
# The journal of a run

Everything that happens is recorded as an event of one type, so that a
journal can be replayed and reasoned about; the wording and the levels are
given once, in `message`, `level` and `fields`.
-/
import PageTimers.Timer
import PageTimers.Text.Quoted
import PageTimers.LogLevel

namespace PageTimers

/-- Something that happened on a page, in a provider or in a scenario run. -/
inductive Event (ι : Type)
  /-- The log itself is ready. -/
  | loggerReady (level format : String) (toFile : Bool)
  | pageAttached
  | interceptorInstalled
  | interceptorPresent
  | monitorInstalled (probes : List String)
  | monitorPresent
  /-- The monitor was to watch the outstanding timers before any are tracked. -/
  | outstandingProbeSkipped
  | probeEvaluated (probe : String) (complete : Bool)
  /-- The interceptor saw a timer scheduled; `outstanding` is the new count. -/
  | scheduled (id : ι) (kind : TimerKind) (outstanding : Nat)
  /-- The interceptor saw a timer cancelled; `answer` is the provider's. -/
  | cancelled (id : ι) (kind : TimerKind) (answer : Bool) (outstanding : Nat)
  /-- The virtual clock starts a callback. -/
  | fired (id : ι) (kind : TimerKind) (now : Nat)
  /-- The virtual clock was moved on. -/
  | advanced (delta now ran : Nat)
  /-- A one-shot task woke up. -/
  | timeoutWoke (id : ι)
  /-- A repeating task woke up. -/
  | intervalTicked (id : ι)
  /-- A task was told to stop. -/
  | taskCancelled (id : ι) (kind : TimerKind) (answer : Bool)
  | scenarioStarted (name : String) (steps : Nat)
  | stepApplied (index : Nat) (step : String) (outstanding : Option (List ι)) (completed : Bool)
  | scenarioFinished (name : String) (completed : Bool)
deriving DecidableEq, Repr

namespace Event

variable {ι : Type}

def level : Event ι → LogLevel
  | loggerReady .. => .info
  | pageAttached => .debug
  | interceptorInstalled => .debug
  | interceptorPresent => .debug
  | monitorInstalled .. => .debug
  | monitorPresent => .debug
  | outstandingProbeSkipped => .warn
  | probeEvaluated .. => .trace
  | scheduled .. => .trace
  | cancelled .. => .trace
  | fired .. => .trace
  | advanced .. => .trace
  | timeoutWoke .. => .trace
  | intervalTicked .. => .trace
  | taskCancelled .. => .trace
  | scenarioStarted .. => .info
  | stepApplied .. => .debug
  | scenarioFinished .. => .info

/-- Under which topic an event is logged. -/
def topic : Event ι → String
  | loggerReady .. => "quiesce::infrastructure::logging::logger"
  | pageAttached => "quiesce::services::page_context"
  | interceptorInstalled => "quiesce::services::page_context"
  | interceptorPresent => "quiesce::services::page_context"
  | monitorInstalled .. => "quiesce::services::page_context"
  | monitorPresent => "quiesce::services::page_context"
  | outstandingProbeSkipped => "quiesce::services::page_context"
  | probeEvaluated .. => "quiesce::services::completion_predicate"
  | scheduled .. => "quiesce::services::timer_interceptor"
  | cancelled .. => "quiesce::services::timer_interceptor"
  | fired .. => "quiesce::adapters::virtual_clock"
  | advanced .. => "quiesce::adapters::virtual_clock"
  | timeoutWoke .. => "quiesce::adapters::tokio_timers"
  | intervalTicked .. => "quiesce::adapters::tokio_timers"
  | taskCancelled .. => "quiesce::adapters::tokio_timers"
  | scenarioStarted .. => "quiesce::services::scenario_runner"
  | stepApplied .. => "quiesce::services::scenario_runner"
  | scenarioFinished .. => "quiesce::services::scenario_runner"

def message : Event ι → String
  | loggerReady .. => "logger initialized"
  | pageAttached => "page context attached"
  | interceptorInstalled => "timer interceptor installed"
  | interceptorPresent => "timer interceptor already installed, skipping"
  | monitorInstalled .. => "completion monitor installed"
  | monitorPresent => "completion monitor already installed, skipping"
  | outstandingProbeSkipped =>
    "outstanding timer probe requested before interceptor install, skipping"
  | probeEvaluated .. => "completion probe evaluated"
  | scheduled .. => "timer scheduled"
  | cancelled .. => "timer cancelled"
  | fired .. => "virtual timer fired"
  | advanced .. => "virtual clock advanced"
  | timeoutWoke .. => "tokio timeout fired"
  | intervalTicked .. => "tokio interval ticked"
  | taskCancelled .. => "tokio timer cancelled"
  | scenarioStarted .. => "running scenario"
  | stepApplied .. => "scenario step applied"
  | scenarioFinished .. => "scenario finished"

/-- The debugging view of an optional list of identifiers. -/
def idListText [Identifier ι] : Option (List ι) → String
  | none => "None"
  | some ids => "Some([" ++ ", ".intercalate (ids.map Identifier.debug) ++ "])"

/-- The named values of an event, besides its message. -/
def values [Identifier ι] : Event ι → List (String × Json)
  | loggerReady level format toFile =>
    [("level", .string level), ("format", .string format), ("file_output", .bool toFile)]
  | monitorInstalled probes => [("probes", .string (Text.quotedList probes))]
  | probeEvaluated probe complete => [("probe", .string probe), ("complete", .bool complete)]
  | scheduled id kind outstanding =>
    [("timer_id", .string (Identifier.debug id)), ("kind", .string kind.name),
      ("outstanding", .ofNat outstanding)]
  | cancelled id kind answer outstanding =>
    [("timer_id", .string (Identifier.debug id)), ("kind", .string kind.name),
      ("cancelled", .bool answer), ("outstanding", .ofNat outstanding)]
  | fired id kind now =>
    [("timer_id", .string (Identifier.display id)), ("kind", .string kind.name),
      ("now_ms", .ofNat now)]
  | advanced delta now ran =>
    [("delta_ms", .ofNat delta), ("now_ms", .ofNat now), ("ran", .ofNat ran)]
  | timeoutWoke id => [("timer_id", .string (Identifier.display id))]
  | intervalTicked id => [("timer_id", .string (Identifier.display id))]
  | taskCancelled id kind answer =>
    [("timer_id", .string (Identifier.display id)), ("kind", .string kind.name),
      ("cancelled", .bool answer)]
  | scenarioStarted name steps => [("scenario", .string name), ("steps", .ofNat steps)]
  | stepApplied index step outstanding completed =>
    [("index", .ofNat index), ("step", .string step),
      ("outstanding", .string (idListText outstanding)), ("completed", .bool completed)]
  | scenarioFinished name completed =>
    [("scenario", .string name), ("completed", .bool completed)]
  | pageAttached => []
  | interceptorInstalled => []
  | interceptorPresent => []
  | monitorPresent => []
  | outstandingProbeSkipped => []

/-- An event as a document: its level, and its message among its values. -/
def toJson [Identifier ι] (e : Event ι) : Json :=
  .array [.string e.level.tag, .ofFields (("message", .string e.message) :: e.values)]

end Event

/-- A journal cut down to what a threshold lets through; no threshold lets
nothing through. -/
def journalFrom {ι : Type} (threshold : Option LogLevel) (events : List (Event ι)) :
    List (Event ι) :=
  match threshold with
  | none => []
  | some level => events.filter (level.rank ≤ ·.level.rank)

end PageTimers
