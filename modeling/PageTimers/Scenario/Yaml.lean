/-
# Scenarios in YAML

The same records as in documents.  The fields of a scenario take any scalar
as a text, but the steps are values of their own: what a scalar in a step
means does not depend on the field.
-/
import PageTimers.Scenario.Document
import PageTimers.Yaml.Value

namespace PageTimers

namespace Yaml

/-- A scalar as a value to be read. -/
def ScalarValue.untyped? : ScalarValue → Option Untyped
  | null => some .null
  | bool b => some (.bool b)
  | int n => (JsonNumber.ofInt? n).map .number
  | real x => some (.number (.real x))
  | text s => some (.string s)

namespace Look

/-- A node as a value to be read; collections may be nested `depth` deep. -/
def untyped : (depth : Nat) → Node → Look Untyped
  | depth, node => do
    match ← resolve node, depth with
    | .scalar tag s isPlain, _ =>
      match (scalarValue? tag s isPlain).bind ScalarValue.untyped? with
      | none => failure
      | some value => return value
    | .sequence tag items, depth + 1 =>
      if isLocal tag then failure
      return .list (← items.mapM (untyped depth))
    | .mapping tag entries, depth + 1 =>
      if isLocal tag then failure
      return .map (← entries.mapM fun (key, value) => do
        return (← untyped depth key, ← untyped depth value))
    | _, _ => failure

/-- A text that may be absent. -/
def optionalText (node : Node) : Look (Option String) := do
  match ← resolve node with
  | .scalar tag s isPlain =>
    if !isPlain then return some s
    else
      match tag with
      | none => return if s = "" || isNull s then none else some s
      | some "tag:yaml.org,2002:null" => if isNull s then return none else failure
      | some _ => return some s
  | _ => failure

/-- A value that came out well. -/
def succeed {ε α : Type} : Except ε α → Look α
  | .ok a => return a
  | .error _ => failure

/-- The `op` of a step takes any scalar as a text. -/
def opFirst (depth : Nat) : List (Node × Node) → Look (List (Untyped × Untyped))
  | [] => return []
  | (key, value) :: rest => do
    let key ← untyped depth key
    let value ← match key with
      | .string "op" => do pure (.string (← text value))
      | _ => untyped depth value
    return (key, value) :: (← opFirst depth rest)

/-- A step. -/
def step (depth : Nat) (node : Node) : Look Step := do
  match ← resolve node, depth with
  | .mapping tag entries, depth + 1 =>
    if isLocal tag then failure
    succeed (Untyped.step? (.map (← opFirst depth entries)))
  | .sequence tag (op :: items), depth + 1 =>
    if isLocal tag then failure
    let op ← text op
    succeed (Untyped.step? (.list (.string op :: (← items.mapM (untyped depth)))))
  | _, _ => failure

/-- The steps of a scenario; nothing at all stands for none. -/
def steps (depth : Nat) (node : Node) : Look (List Step) := do
  match ← resolve node, depth with
  | .sequence _ items, depth + 1 => items.mapM (step depth)
  | .scalar _ "" true, _ => return []
  | _, _ => failure

/-- The fields of a scenario, as far as they have been read. -/
structure Draft where
  name : Option String := none
  description : Option (Option String) := none
  steps : Option (List Step) := none

/-- Read one named field; no field may be given twice. -/
def field (depth : Nat) (draft : Draft) (entry : Node × Node) : Look Draft := do
  match ← text entry.1 with
  | "name" =>
    if draft.name.isSome then failure
    return { draft with name := some (← text entry.2) }
  | "description" =>
    if draft.description.isSome then failure
    return { draft with description := some (← optionalText entry.2) }
  | "steps" =>
    if draft.steps.isSome then failure
    return { draft with steps := some (← steps depth entry.2) }
  | _ => return draft

/-- A scenario, by its named fields or as a list of their values. -/
def scenario (root : Option Node) : Look Scenario := do
  match root with
  | none => failure
  | some root =>
    match ← resolve root with
    | .mapping _ entries =>
      let draft ← entries.foldlM (field (depthLimit - 1)) {}
      match draft.name, draft.steps with
      | some name, some steps => return ⟨name, draft.description.join, steps⟩
      | _, _ => failure
    | .sequence _ [name, description, list] =>
      return ⟨← text name, ← optionalText description, ← steps (depthLimit - 1) list⟩
    | _ => failure

end Look

end Yaml

/-- The scenario in a YAML text, if it is one. -/
def Scenario.ofYaml? (text : String) : Option Scenario :=
  (Yaml.document? text).bind fun document => document.look? Yaml.Look.scenario

end PageTimers
