/-
# Log levels

Five levels of importance, each with a name for settings and a tag for the
journal.
-/
import PageTimers.Text.Lowercase

namespace PageTimers

/-- How important an event is, from the least on. -/
inductive LogLevel
  | trace
  | debug
  | info
  | warn
  | error
deriving DecidableEq, Repr, Inhabited

namespace LogLevel

/-- Position in the order of importance. -/
def rank : LogLevel → Nat
  | trace => 0
  | debug => 1
  | info => 2
  | warn => 3
  | error => 4

/-- The name of a level in a configuration. -/
def name : LogLevel → String
  | trace => "trace"
  | debug => "debug"
  | info => "info"
  | warn => "warn"
  | error => "error"

/-- All levels, from the least important on. -/
def all : List LogLevel := [trace, debug, info, warn, error]

/-- The level of the given lower case name. -/
def ofName? (name : String) : Option LogLevel :=
  all.find? (·.name == name)

/-- The tag of a level in the journal. -/
def tag : LogLevel → String
  | trace => "TRACE"
  | debug => "DEBUG"
  | info => "INFO"
  | warn => "WARN"
  | error => "ERROR"

/-- The level of a name in any case. -/
def ofText? (text : String) : Option LogLevel :=
  match Text.lowercase text with
  | "trace" => some trace
  | "debug" => some debug
  | "info" => some info
  | "warn" => some warn
  | "error" => some error
  | _ => none

end LogLevel

end PageTimers
