/-
# Settings

Eight values in three sections, each with a default.  `Settings.decode` says
once which fields there are; the dialect decides how they are read.
`Settings.toJson` writes all of them, whether they are defaults or not.
-/
import PageTimers.Decode.Dialect
import PageTimers.LogLevel
import PageTimers.Text.Blank

namespace PageTimers

/-- How log lines on the console look. -/
inductive LogFormat
  | json
  | pretty
deriving DecidableEq, Repr, Inhabited

namespace LogFormat

def name : LogFormat → String
  | json => "json"
  | pretty => "pretty"

/-- The text of a format in the journal. -/
def debug : LogFormat → String
  | json => "Json"
  | pretty => "Pretty"

def options : List (String × LogFormat) := [json, pretty].map fun f => (f.name, f)

end LogFormat

/-- When a new log file is begun. -/
inductive Rotation
  | daily
  | hourly
  | never
deriving DecidableEq, Repr, Inhabited

namespace Rotation

def name : Rotation → String
  | daily => "daily"
  | hourly => "hourly"
  | never => "never"

def options : List (String × Rotation) := [daily, hourly, never].map fun r => (r.name, r)

end Rotation

structure LoggingSettings where
  /-- The name of the least important level that is logged, in any case. -/
  level : String := "info"
  format : LogFormat := .pretty
  /-- The directory of the log files, if there are to be any. -/
  logDir : Option String := none
  rotation : Rotation := .daily
deriving DecidableEq, Repr, Inhabited

structure CompletionSettings where
  /-- The global under which a test framework publishes its reporter. -/
  reporterGlobal : String := "reporter"
  /-- The field of the reporter that holds once the tests are done. -/
  finishedField : String := "finished"
  /-- Whether a page without outstanding timers is complete as well. -/
  includeOutstanding : Bool := false
deriving DecidableEq, Repr, Inhabited

structure ClockSettings where
  /-- How many callbacks one drain may run. -/
  stepLimit : UInt64 := 10000
deriving DecidableEq, Repr, Inhabited

structure Settings where
  logging : LoggingSettings := {}
  completion : CompletionSettings := {}
  virtualClock : ClockSettings := {}
deriving DecidableEq, Repr, Inhabited

/-! ## Reading -/

variable {ν ε : Type}

namespace LoggingSettings

def fields (d : Dialect ν ε) : List (Field ν ε LoggingSettings) :=
  [⟨"level", false, fun v s => return { s with level := ← d.text v }⟩,
    ⟨"format", false, fun v s =>
      return { s with format := ← d.choice "LogFormat" LogFormat.options v }⟩,
    ⟨"log_dir", false, fun v s => return { s with logDir := ← d.path v }⟩,
    ⟨"rotation", false, fun v s =>
      return { s with rotation := ← d.choice "RotationPolicy" Rotation.options v }⟩]

def decode (d : Dialect ν ε) : ν → Except ε LoggingSettings :=
  d.record "struct LoggingConfig" (fields d) {}

def toJson (s : LoggingSettings) : Json :=
  .ofFields [("level", .string s.level), ("format", .string s.format.name),
    ("log_dir", .ofOption .string s.logDir), ("rotation", .string s.rotation.name)]

end LoggingSettings

namespace CompletionSettings

def fields (d : Dialect ν ε) : List (Field ν ε CompletionSettings) :=
  [⟨"reporter_global", false, fun v s => return { s with reporterGlobal := ← d.text v }⟩,
    ⟨"finished_field", false, fun v s => return { s with finishedField := ← d.text v }⟩,
    ⟨"include_outstanding_timers", false, fun v s =>
      return { s with includeOutstanding := ← d.flag v }⟩]

def decode (d : Dialect ν ε) : ν → Except ε CompletionSettings :=
  d.record "struct CompletionConfig" (fields d) {}

def toJson (s : CompletionSettings) : Json :=
  .ofFields [("reporter_global", .string s.reporterGlobal),
    ("finished_field", .string s.finishedField),
    ("include_outstanding_timers", .bool s.includeOutstanding)]

end CompletionSettings

namespace ClockSettings

def fields (d : Dialect ν ε) : List (Field ν ε ClockSettings) :=
  [⟨"step_limit", false, fun v _ => return { stepLimit := ← d.count v }⟩]

def decode (d : Dialect ν ε) : ν → Except ε ClockSettings :=
  d.record "struct VirtualClockConfig" (fields d) {}

def toJson (s : ClockSettings) : Json :=
  .ofFields [("step_limit", .number (.natural s.stepLimit))]

end ClockSettings

namespace Settings

def fields (d : Dialect ν ε) : List (Field ν ε Settings) :=
  [⟨"logging", false, fun v s => return { s with logging := ← LoggingSettings.decode d v }⟩,
    ⟨"completion", false, fun v s =>
      return { s with completion := ← CompletionSettings.decode d v }⟩,
    ⟨"virtual_clock", false, fun v s =>
      return { s with virtualClock := ← ClockSettings.decode d v }⟩]

def decode (d : Dialect ν ε) : ν → Except ε Settings :=
  d.record "struct Config" (fields d) {}

def toJson (s : Settings) : Json :=
  .ofFields [("logging", s.logging.toJson), ("completion", s.completion.toJson),
    ("virtual_clock", s.virtualClock.toJson)]

end Settings

/-! ## Validity -/

/-- Why settings that could be read cannot be used. -/
inductive SettingsError
  | invalidLogLevel (level : String)
  | emptyReporterGlobal
  | emptyFinishedField
  | invalidStepLimit (limit : Nat)
deriving DecidableEq, Repr

def SettingsError.message : SettingsError → String
  | invalidLogLevel level =>
    s!"Invalid log level: {level}. Must be one of: trace, debug, info, warn, error"
  | emptyReporterGlobal => "Reporter global name cannot be empty"
  | emptyFinishedField => "Finished field name cannot be empty"
  | invalidStepLimit limit => s!"Invalid step_limit: {limit}. Must be at least 1"

/-- What may stand for a level, in lower case. -/
def LoggingSettings.levelNames : List String := ["trace", "debug", "info", "warn", "error"]

/-- The first thing that is wrong with settings, in the order of sections. -/
def Settings.validate (s : Settings) : Except SettingsError Unit :=
  if !LoggingSettings.levelNames.contains (Text.lowercase s.logging.level) then
    .error (.invalidLogLevel s.logging.level)
  else if Text.isBlankText s.completion.reporterGlobal then .error .emptyReporterGlobal
  else if Text.isBlankText s.completion.finishedField then .error .emptyFinishedField
  else if s.virtualClock.stepLimit = 0 then
    .error (.invalidStepLimit s.virtualClock.stepLimit.toNat)
  else .ok ()

end PageTimers
