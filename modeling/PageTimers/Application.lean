/-
# The program as a whole

From arguments, files and the environment to what is written and logged.
Nothing here acts on the world: the disk is given, and so is the stamp of
the one page that a run attaches.
-/
import PageTimers.CommandLine
import PageTimers.Layers.Load
import PageTimers.Logging
import PageTimers.Scenario.Report
import PageTimers.Scenario.Yaml
import PageTimers.Settings.Text

namespace PageTimers

structure Invocation where
  arguments : List String
  surroundings : Surroundings
  stamp : PageStamp

/-- What goes to the log, and how the log was set up. -/
structure Log where
  settings : LoggingSettings
  events : List (Event TimerId)

/-- What comes of an invocation. -/
structure Response where
  exit : Nat
  output : String
  /-- What is written beside the output. -/
  complaint : String
  log : Option Log

/-- Why a command failed: what to say first, and what lies behind it. -/
structure Failure where
  message : String
  causes : List String
deriving DecidableEq, Repr

/-- What a command has to tell, as a document and as text. -/
structure Answered where
  json : Json
  text : String

namespace Failure

/-- Settings that cannot be had. -/
def ofLoad (file : Option String) (error : LoadError) : Failure :=
  ⟨error.message file, error.causes⟩

def ofLogging (error : LoggingError) : Failure := ⟨error.message, []⟩

/-- The errors behind a failed scenario; a timer error is named by the
scenario's, and then by itself. -/
def scenarioCauses : ScenarioError → List String
  | .timer error => [(ScenarioError.timer error).message, error.message]
  | error => [error.message]

def toJson (failure : Failure) : Json :=
  .ofFields [("error", .string failure.message),
    ("causes", .array (failure.causes.map .string))]

def text (failure : Failure) : String :=
  "Error: " ++ ": ".intercalate (failure.message :: failure.causes)

end Failure

namespace Command

/-- The scenario in a file. -/
def readScenario (s : Surroundings) (file : String) : Except Failure Scenario :=
  match s.disk s.directory file with
  | .text content =>
    match Scenario.ofYaml? content with
    | some scenario => .ok scenario
    | none => .error ⟨s!"Failed to parse scenario {file}", ["not a scenario"]⟩
  | _ => .error ⟨s!"Failed to read scenario {file}", ["no text in this place"]⟩

/-- Run a scenario: the journal, and what there is to tell. -/
def scenarioRun (i : Invocation) (settings : Settings) (file : String) :
    List (Event TimerId) × Except Failure Answered :=
  match readScenario i.surroundings file with
  | .error failure => ([], .error failure)
  | .ok scenario =>
    let outcome := scenario.run settings
    (outcome.journal,
      match outcome.result with
      | .error e => .error ⟨s!"Scenario '{scenario.name}' failed", Failure.scenarioCauses e⟩
      | .ok report => .ok ⟨report.toJson i.stamp, report.text i.stamp⟩)

/-- Check a scenario. -/
def scenarioCheck (i : Invocation) (file : String) : Except Failure Answered := do
  let scenario ← readScenario i.surroundings file
  match scenario.check with
  | .error e => .error ⟨s!"Scenario '{scenario.name}' is invalid", Failure.scenarioCauses e⟩
  | .ok report => return ⟨report.toJson, report.text⟩

/-- Carry out a command. -/
def perform (i : Invocation) (settings : Settings) :
    Command → List (Event TimerId) × Except Failure Answered
  | runScenario file => scenarioRun i settings file
  | checkScenario file => ([], scenarioCheck i file)
  | showConfig => ([], .ok ⟨settings.toJson, settings.text⟩)

end Command

namespace UsageError

/-- What is said about arguments that make no command line. -/
def message : UsageError → String
  | missingFile => "the name of a file is missing"
  | unknownCommand => "there is no such command"
  | missingCommand => "a command is missing"
  | nothingGiven => "a command is needed"
  | unknownArgument => "unexpected argument"
  | repeatedOption => "an option was given twice"
  | emptyValue => "a value is missing"
  | needlessValue => "an option takes no value"
  | helpAsked => ""
  | versionAsked => ""

def usage : String :=
  "Usage: quiesce [--json] [--config FILE] scenario run|check FILE\n" ++
    "       quiesce [--json] [--config FILE] config show\n"

end UsageError

namespace Response

/-- The response to arguments that make no command line. -/
def ofUsage : UsageError → Response
  | .helpAsked => ⟨0, UsageError.usage, "", none⟩
  | .versionAsked => ⟨0, "quiesce 0.1.0\n", "", none⟩
  | error => ⟨2, "", s!"error: {error.message}\n\n{UsageError.usage}", none⟩

/-- The response to what was carried out, or to what prevented it. -/
def ofResult (json : Bool) (log : Option Log) : Except Failure Answered → Response
  | .ok answered =>
    ⟨0, (if json then answered.json.pretty else answered.text) ++ "\n", "", log⟩
  | .error failure =>
    if json then ⟨1, failure.toJson.pretty ++ "\n", "", log⟩
    else ⟨1, "", failure.text ++ "\n", log⟩

end Response

namespace Invocation

/-- The variable that may name a file with settings. -/
def configVariable : String := "QUIESCE_CONFIG"

/-- The variable with directives for the log. -/
def filterVariable : String := "RUST_LOG"

/-- The first event of every log. -/
def opening (settings : LoggingSettings) : Event TimerId :=
  .loggerReady settings.level settings.format.debug settings.logDir.isSome

/-- What of a journal goes to the log. -/
def logOf (i : Invocation) (settings : LoggingSettings) (level : LogLevel)
    (journal : List (Event TimerId)) : Log :=
  let directives := (i.surroundings.environment.get? filterVariable).getD ""
  let filter := LogFilter.ofText level directives
  ⟨settings, (opening settings :: journal).filter filter.passes⟩

/-- Carry out a command line. -/
def execute (i : Invocation) (line : CommandLine) : Response :=
  match i.surroundings.load line.config with
  | .error e => .ofResult line.json none (.error (.ofLoad line.config e))
  | .ok settings =>
    match settings.logging.threshold with
    | .error e => .ofResult line.json none (.error (.ofLogging e))
    | .ok level =>
      let (journal, result) := line.command.perform i settings
      .ofResult line.json (some (i.logOf settings.logging level journal)) result

/-- From the arguments to the response. -/
def run (i : Invocation) : Response :=
  match CommandLine.parse (i.surroundings.environment.get? configVariable) i.arguments with
  | .error e => .ofUsage e
  | .ok line => i.execute line

end Invocation

end PageTimers
