/-
# The layer of the environment

A variable whose name begins with `QUIESCE_`, in any case, is a setting.
Two underscores in the rest of its name, or a point, lead into a group.
-/
import PageTimers.Layers.Expression

namespace PageTimers

/-- The environment: names and values, in order. -/
abbrev Environment := List (String × String)

namespace Environment

/-- The value of a variable. -/
def get? (name : String) (environment : Environment) : Option String :=
  (environment.find? (·.1 == name)).map (·.2)

/-- What the names of settings begin with, in lower case. -/
def mark : List Char := "quiesce_".toList

/-- A name with points for double underscores. -/
def pointed : List Char → List Char
  | '_' :: '_' :: rest => '.' :: pointed rest
  | c :: rest => c :: pointed rest
  | [] => []

/-- The parts of a name between its points. -/
def parts : List Char → List (List Char)
  | [] => [[]]
  | '.' :: rest => [] :: parts rest
  | c :: rest =>
    match parts rest with
    | [] => [[c]]
    | part :: more => (c :: part) :: more

/-- The setting that a variable is for, if it is for one. -/
def path? (name : String) : Option (List String) :=
  let name := Text.trimmed name.toList
  if mark.isPrefixOf (name.map Char.toLower) then
    let parts := parts (Text.trimmed (pointed (name.drop mark.length)))
    if parts.any List.isEmpty then none
    else some (parts.map fun part => String.ofList (part.map Char.toLower))
  else none

/-- The settings in the environment; of two for one place the later is on
top. -/
def layer (environment : Environment) : Layer :=
  Layer.stack (environment.filterMap fun (name, value) =>
    match path? name with
    | some (first :: path) => some [(first, (Setting.ofText value).atPath path)]
    | _ => none)

end Environment

end PageTimers
