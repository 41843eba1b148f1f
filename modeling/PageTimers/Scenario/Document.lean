/-
# Scenarios as documents

A step is written as an object whose `op` says which step it is.  Reading
takes the same objects, and lists of the values of the fields in order, the
`op` first; fields that no step has are passed over.
-/
import PageTimers.Decode.Dialect
import PageTimers.Scenario.Basic

namespace PageTimers

/-! ## Writing -/

def Assignment.toJson (a : Assignment) : Json :=
  .ofFields [("name", .string a.name), ("value", a.value)]

namespace Step

/-- The names of the steps, as `op` gives them. -/
def opNames : List String :=
  ["install_interceptor", "install_completion_monitor", "schedule_once", "schedule_repeating",
    "cancel_once", "cancel_repeating", "cancel_id", "advance", "set_global"]

def word (n : UInt64) : Json := .number (.natural n)

def toJson : Step → Json
  | installInterceptor => .ofFields [("op", .string "install_interceptor")]
  | installMonitor => .ofFields [("op", .string "install_completion_monitor")]
  | scheduleOnce label delay sets =>
    .ofFields [("op", .string "schedule_once"), ("label", .string label),
      ("delay_ms", word delay), ("sets", .ofOption Assignment.toJson sets)]
  | scheduleRepeating label period =>
    .ofFields [("op", .string "schedule_repeating"), ("label", .string label),
      ("period_ms", word period)]
  | cancelOnce label => .ofFields [("op", .string "cancel_once"), ("label", .string label)]
  | cancelRepeating label =>
    .ofFields [("op", .string "cancel_repeating"), ("label", .string label)]
  | cancelId id => .ofFields [("op", .string "cancel_id"), ("id", word id)]
  | advance ms => .ofFields [("op", .string "advance"), ("ms", word ms)]
  | setGlobal name value =>
    .ofFields [("op", .string "set_global"), ("name", .string name), ("value", value)]

end Step

def Scenario.toJson (s : Scenario) : Json :=
  .ofFields [("name", .string s.name), ("description", .ofOption .string s.description),
    ("steps", .array (s.steps.map Step.toJson))]

/-! ## Reading -/

namespace Untyped

/-- Any document. -/
def document? (value : Untyped) : Except DecodeError Json :=
  match value.toJson? with
  | some document => .ok document
  | none => .error (.wrongType value "a string")

/-- Read a record of which no more than its fields may be given. -/
def strictRecord? {σ : Type} (what : String) (fields : List (Field Untyped DecodeError σ))
    (start : σ) (value : Untyped) : Except DecodeError σ :=
  record? .ofSequence what fields start value

def assignment? : Untyped → Except DecodeError Assignment :=
  strictRecord? "struct GlobalAssignment"
    [⟨"name", true, fun v a => return { a with name := ← text? v }⟩,
      ⟨"value", true, fun v a => return { a with value := ← document? v }⟩]
    ⟨"", .null⟩

/-- A value that may be absent. -/
def optional? {α : Type} (read : Untyped → Except DecodeError α) (value : Untyped) :
    Except DecodeError (Option α) :=
  match value with
  | .null => .ok none
  | value => (read value).map some

/-- A step without fields; those that are given are passed over. -/
def bareStep? (step : Step) (name : String) (value : Untyped) : Except DecodeError Step :=
  match value with
  | .map _ => .ok step
  | value => strictRecord? s!"struct variant ScenarioStep::{name}" [] step value

/-- The one field of a step that has no other. -/
def oneField? {α : Type} (variant field : String) (read : Untyped → Except DecodeError α)
    (start : α) : Untyped → Except DecodeError α :=
  strictRecord? s!"struct variant ScenarioStep::{variant}"
    [⟨field, true, fun v _ => read v⟩] start

/-- The fields of a step, once its `op` is known. -/
def stepOf? (op : String) (value : Untyped) : Except DecodeError Step :=
  match op with
  | "install_interceptor" => bareStep? .installInterceptor "InstallInterceptor" value
  | "install_completion_monitor" =>
    bareStep? .installMonitor "InstallCompletionMonitor" value
  | "schedule_once" => do
    let (label, delay, sets) ← strictRecord? "struct variant ScenarioStep::ScheduleOnce"
      [⟨"label", true, fun v (_, delay, sets) => return (← text? v, delay, sets)⟩,
        ⟨"delay_ms", true, fun v (label, _, sets) => return (label, ← word? "u64" v, sets)⟩,
        ⟨"sets", false, fun v (label, delay, _) =>
          return (label, delay, ← optional? assignment? v)⟩]
      ("", 0, none) value
    return .scheduleOnce label delay sets
  | "schedule_repeating" => do
    let (label, period) ← strictRecord? "struct variant ScenarioStep::ScheduleRepeating"
      [⟨"label", true, fun v (_, period) => return (← text? v, period)⟩,
        ⟨"period_ms", true, fun v (label, _) => return (label, ← word? "u64" v)⟩]
      ("", 0) value
    return .scheduleRepeating label period
  | "cancel_once" => return .cancelOnce (← oneField? "CancelOnce" "label" text? "" value)
  | "cancel_repeating" =>
    return .cancelRepeating (← oneField? "CancelRepeating" "label" text? "" value)
  | "cancel_id" => return .cancelId (← oneField? "CancelId" "id" (word? "u64") 0 value)
  | "advance" => return .advance (← oneField? "Advance" "ms" (word? "u64") 0 value)
  | "set_global" => do
    let (name, value) ← strictRecord? "struct variant ScenarioStep::SetGlobal"
      [⟨"name", true, fun v (_, value) => return (← text? v, value)⟩,
        ⟨"value", true, fun v (name, _) => return (name, ← document? v)⟩]
      ("", Json.null) value
    return .setGlobal name value
  | other => .error (.unknownVariant other Step.opNames)

/-- The name that an `op` gives. -/
def op? (value : Untyped) : Except DecodeError String :=
  match value with
  | .string name =>
    if Step.opNames.contains name then .ok name
    else .error (.unknownVariant name Step.opNames)
  | other => .error (.wrongType other "variant identifier")

/-- Take the `op` out of the entries of a map. -/
def takeOp? : (found : Option String) → (entries : List (Untyped × Untyped)) →
    Except DecodeError (Option String × List (Untyped × Untyped))
  | found, [] => .ok (found, [])
  | found, (.string "op", value) :: rest =>
    match found with
    | some _ => .error (.duplicateField "op")
    | none => do takeOp? (some (← op? value)) rest
  | found, entry :: rest => do
    let (found, entries) ← takeOp? found rest
    return (found, entry :: entries)

def step? (value : Untyped) : Except DecodeError Step :=
  match value with
  | .map entries => do
    let (found, entries) ← takeOp? none entries
    match found with
    | none => .error (.missingField "op")
    | some op => stepOf? op (.map entries)
  | .list [] => .error (.missingField "op")
  | .list (op :: items) => do stepOf? (← op? op) (.list items)
  | other => .error (.wrongType other "internally tagged enum ScenarioStep")

/-- A list, all of whose items can be read. -/
def items? {α : Type} (read : Untyped → Except DecodeError α) (value : Untyped) :
    Except DecodeError (List α) :=
  match value with
  | .list items => items.mapM read
  | other => .error (.wrongType other "a sequence")

def scenario? : Untyped → Except DecodeError Scenario :=
  record? .ofArray "struct Scenario"
    [⟨"name", true, fun v s => return { s with name := ← text? v }⟩,
      ⟨"description", false, fun v s => return { s with description := ← optional? text? v }⟩,
      ⟨"steps", true, fun v s => return { s with steps := ← items? step? v }⟩]
    ⟨"", none, []⟩

end Untyped

end PageTimers
