/-
# What is logged

Settings give the least important level that is logged.  A text of
directives, separated by commas, may stand in for that: each lets the events
of a topic through from some level on, and of those that fit an event the
one with the longest topic decides.
-/
import PageTimers.Event
import PageTimers.Settings

namespace PageTimers

/-- Why a log cannot be set up. -/
inductive LoggingError
  | invalidLevel (level : String)
deriving DecidableEq, Repr

def LoggingError.message : LoggingError → String
  | invalidLevel level => s!"Invalid log level: {level}"

/-- The least important level that is logged. -/
def LoggingSettings.threshold (settings : LoggingSettings) : Except LoggingError LogLevel :=
  match LogLevel.ofText? settings.level with
  | some level => .ok level
  | none => .error (.invalidLevel settings.level)

/-! ## Directives -/

/-- From which level on events of a topic are logged. -/
structure LogDirective where
  /-- The start of a topic; `none` fits every topic. -/
  topic : Option String
  /-- `none` lets nothing through. -/
  threshold : Option LogLevel
  /-- Whether only events within named spans are meant; there are none. -/
  withinSpan : Bool
deriving DecidableEq, Repr

namespace LogDirective

/-- A level by its name, in any case, or by its number. -/
def threshold? (text : String) : Option (Option LogLevel) :=
  match Text.lowered text with
  | "off" => some none
  | "0" => some none
  | "1" => some (some .error)
  | "2" => some (some .warn)
  | "3" => some (some .info)
  | "4" => some (some .debug)
  | "5" => some (some .trace)
  | name => (LogLevel.ofName? name).map some

def isTopicChar (c : Char) : Bool := c.isAlphanum || c = '_' || c = ':' || c = '-'

/-- The topic of a directive, and its span if there is one. -/
def subject? (text : List Char) : Option (Option String × Bool) :=
  let topic := text.takeWhile isTopicChar
  let named := if topic.isEmpty then none else some (String.ofList topic)
  match text.dropWhile isTopicChar with
  | [] => named.map fun name => (some name, false)
  | '[' :: rest =>
    match rest.dropWhile (· ≠ ']') with
    | [_] => some (named, true)
    | _ => none
  | _ => none

/-- A level, or a topic and its level.  A topic without a level is logged as
a whole, and a level in the place of a topic stands for all of them. -/
def ofText? (text : String) : Option LogDirective :=
  match threshold? text with
  | some threshold => some ⟨none, threshold, false⟩
  | none => do
    let characters := text.toList
    let (topic, withinSpan) ← subject? (characters.takeWhile (· ≠ '='))
    let threshold ← match characters.dropWhile (· ≠ '=') with
      | [] => some (some .trace)
      | [_] => some (some .trace)
      | _ :: level => threshold? (String.ofList level)
    return ⟨topic.filter fun name => (threshold? name).isNone, threshold, withinSpan⟩

/-- Whether a directive is about a topic. -/
def isAbout (topic : String) (d : LogDirective) : Bool :=
  !d.withinSpan &&
    match d.topic with
    | none => true
    | some start => start.toList.isPrefixOf topic.toList

/-- How closely a directive is about its topic. -/
def closeness (d : LogDirective) : Nat :=
  match d.topic with
  | none => 0
  | some start => start.length + 1

end LogDirective

/-- What a log lets through, as directives. -/
abbrev LogFilter := List LogDirective

namespace LogFilter

/-- The filter of a text of directives.  Those that cannot be read are passed
over; if there are none at all, the given level counts. -/
def ofText (level : LogLevel) (text : String) : LogFilter :=
  match (text.splitOn ",").filterMap LogDirective.ofText? with
  | [] => [⟨none, some level, false⟩]
  | directives => directives

/-- The directive that decides on a topic: the closest, and of several as
close the last. -/
def directiveFor? (filter : LogFilter) (topic : String) : Option LogDirective :=
  (filter.filter (·.isAbout topic)).foldl
    (fun best d =>
      match best with
      | none => some d
      | some b => if b.closeness ≤ d.closeness then some d else some b) none

/-- Whether an event is logged. -/
def passes {ι : Type} (filter : LogFilter) (event : Event ι) : Bool :=
  match filter.directiveFor? event.topic with
  | none => false
  | some d => d.threshold.any fun level => level.rank ≤ event.level.rank

end LogFilter

end PageTimers
