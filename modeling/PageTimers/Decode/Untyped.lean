/-
# Values whose type is still to be decided

What a document holds before anyone has said what it should be.  A JSON
document is one kind of source; another may have maps with keys of any
kind, and doubles that are not finite.  `Untyped.toJson?` says which values
are documents after all.
-/
import PageTimers.Json.Writer
import PageTimers.Text.Quoted

namespace PageTimers

inductive Untyped
  | null
  | bool (b : Bool)
  | number (n : JsonNumber)
  | string (s : String)
  | list (items : List Untyped)
  | map (entries : List (Untyped × Untyped))
deriving Repr, Inhabited

namespace Untyped

mutual

/-- A document, as a value to be read. -/
def ofJson : Json → Untyped
  | .null => null
  | .bool b => bool b
  | .number n => number n
  | .string s => string s
  | .array items => list (ofJsonItems items)
  | .object fields => map (ofJsonFields fields)

def ofJsonItems : List Json → List Untyped
  | [] => []
  | item :: rest => ofJson item :: ofJsonItems rest

def ofJsonFields : List (String × Json) → List (Untyped × Untyped)
  | [] => []
  | (name, value) :: rest => (string name, ofJson value) :: ofJsonFields rest

end

/-- A document has no doubles but the finite ones; `null` stands for the
others. -/
def finiteNumber (n : JsonNumber) : Json :=
  match n with
  | .real x => if x.isFinite then .number (.real x) else .null
  | n => .number n

mutual

/-- The document that a value is.  A map with a key that is no text is
none; of two fields of one name the last counts. -/
def toJson? : Untyped → Option Json
  | .null => some .null
  | .bool b => some (.bool b)
  | .number n => some (finiteNumber n)
  | .string s => some (.string s)
  | .list items => (toJsonItems? items).map .array
  | .map entries => (toJsonFields? [] entries).map .object

def toJsonItems? : List Untyped → Option (List Json)
  | [] => some []
  | item :: rest => do
    let document ← toJson? item
    let documents ← toJsonItems? rest
    return document :: documents

def toJsonFields? (fields : Fields Json) : List (Untyped × Untyped) → Option (Fields Json)
  | [] => some fields
  | (.string name, value) :: rest => do
    let document ← toJson? value
    toJsonFields? (fields.insert name document) rest
  | _ :: _ => none

end

/-- What a value is, as an error names it. -/
def describe : Untyped → String
  | .null => "null"
  | .bool b => "boolean `" ++ (if b then "true" else "false") ++ "`"
  | .number (.real x) => "floating point `" ++ x.render .documents ++ "`"
  | .number n => "integer `" ++ n.render ++ "`"
  | .string s => "string " ++ Text.quoted s
  | .list _ => "sequence"
  | .map _ => "map"

end Untyped

end PageTimers
