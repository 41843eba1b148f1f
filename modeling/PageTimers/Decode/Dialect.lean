/-
# Reading records

What a record looks like is said once, as a list of fields; how a value is
taken for a text, a switch, a count or a record, and which errors that can
end in, is the business of a `Dialect`.  A record may always be given with
named fields, or as a list of their values in order.
-/
import PageTimers.Decode.Error

namespace PageTimers

/-- A named field of a record.  `put` takes its value over into what has
been read so far; a field that is not required keeps what is there already
when it is not given. -/
structure Field (ν ε σ : Type) where
  name : String
  required : Bool
  put : ν → σ → Except ε σ

/-- The ways in which values `ν` are read, with errors `ε`. -/
structure Dialect (ν ε : Type) where
  text : ν → Except ε String
  flag : ν → Except ε Bool
  count : ν → Except ε UInt64
  /-- A path that may be absent. -/
  path : ν → Except ε (Option String)
  /-- One of several names. -/
  choice : {α : Type} → (what : String) → List (String × α) → ν → Except ε α
  /-- A record, from the values that its fields have when not given. -/
  record : {σ : Type} → (what : String) → List (Field ν ε σ) → σ → ν → Except ε σ

/-- The values of a choice that lists each of them by name. -/
def pick? {α : Type} (name : String) (options : List (String × α)) : Option α :=
  (options.find? (·.1 == name)).map (·.2)

namespace Untyped

/-! ## The dialect of documents -/

def text? (value : Untyped) : Except DecodeError String :=
  match value with
  | .string s => .ok s
  | other => .error (.wrongType other "a string")

def flag? (value : Untyped) : Except DecodeError Bool :=
  match value with
  | .bool b => .ok b
  | other => .error (.wrongType other "a boolean")

/-- An unsigned number of 64 bits; `what` is its name in errors. -/
def word? (what : String) (value : Untyped) : Except DecodeError UInt64 :=
  match value with
  | .number (.natural n) => .ok n
  | .number (.negative n) => .error (.wrongValue (.number (.negative n)) what)
  | other => .error (.wrongType other what)

def path? (value : Untyped) : Except DecodeError (Option String) :=
  match value with
  | .null => .ok none
  | .string s => .ok (some s)
  | other => .error (.wrongType other "path string")

/-- One of several names, alone or as the only key of a map, with nothing
under it. -/
def choice? {α : Type} (options : List (String × α)) (value : Untyped) : Except DecodeError α :=
  let named (name : String) : Except DecodeError α :=
    match pick? name options with
    | some a => .ok a
    | none => .error (.unknownVariant name (options.map (·.1)))
  match value with
  | .string name => named name
  | .map [(.string name, content)] => do
    let a ← named name
    match content with
    | .null => .ok a
    | other => .error (.wrongType other "unit")
  | .map entries => .error (.wrongValue (.map entries) "map with a single key")
  | other => .error (.wrongType other "string or map")

/-- The field that a key of a map stands for: by name or by position. -/
def fieldOf? {σ : Type} (fields : List (Field Untyped DecodeError σ)) (key : Untyped) :
    Except DecodeError (Option (Field Untyped DecodeError σ)) :=
  match key with
  | .string name => .ok (fields.find? (·.name == name))
  | .number (.natural n) => .ok fields[n.toNat]?
  | other => .error (.wrongType other "field identifier")

/-- Read named fields one after the other; `seen` are the names so far.  A
name that is none of the record's is passed over. -/
def putNamed {σ : Type} (fields : List (Field Untyped DecodeError σ)) :
    (seen : List String) → σ → List (Untyped × Untyped) → Except DecodeError (List String × σ)
  | seen, record, [] => .ok (seen, record)
  | seen, record, (key, value) :: rest => do
    match ← fieldOf? fields key with
    | none => putNamed fields seen record rest
    | some field =>
      if seen.contains field.name then .error (.duplicateField field.name)
      else putNamed fields (field.name :: seen) (← field.put value record) rest

/-- A count of things, in words. -/
def counted (n : Nat) (thing : String) : String :=
  if n = 1 then s!"{n} {thing}" else s!"{n} {thing}s"

/-- Read the fields in order, from the position `index` on; what is left of
the list comes back. -/
def putInOrder {σ : Type} (expected : String) :
    (index : Nat) → List (Field Untyped DecodeError σ) → σ → List Untyped →
      Except DecodeError (List Untyped × σ)
  | _, [], record, items => .ok (items, record)
  | index, field :: fields, record, [] =>
    if field.required then .error (.wrongLength index expected)
    else putInOrder expected (index + 1) fields record []
  | index, field :: fields, record, item :: items => do
    putInOrder expected (index + 1) fields (← field.put item record) items

/-- How an error speaks of a list that is longer than its record. -/
inductive Surplus
  | ofArray
  | ofSequence
deriving DecidableEq, Repr

/-- The error for a list that is longer than its record. -/
def Surplus.error (surplus : Surplus) (length fields : Nat) : DecodeError :=
  match surplus with
  | ofArray => .wrongLength length "fewer elements in array"
  | ofSequence => .wrongLength length (counted fields "element" ++ " in sequence")

/-- A record given by its named fields. -/
def recordOfMap {σ : Type} (fields : List (Field Untyped DecodeError σ)) (start : σ)
    (entries : List (Untyped × Untyped)) : Except DecodeError σ := do
  let (seen, record) ← putNamed fields [] start entries
  match fields.find? fun field => field.required && !seen.contains field.name with
  | some field => .error (.missingField field.name)
  | none => .ok record

/-- A record given as a list. -/
def recordOfList {σ : Type} (surplus : Surplus) (what : String)
    (fields : List (Field Untyped DecodeError σ)) (start : σ) (items : List Untyped) :
    Except DecodeError σ := do
  let expected := what ++ " with " ++ counted fields.length "element"
  let (left, record) ← putInOrder expected 0 fields start items
  if left.isEmpty then .ok record
  else .error (surplus.error items.length fields.length)

def record? {σ : Type} (surplus : Surplus) (what : String)
    (fields : List (Field Untyped DecodeError σ)) (start : σ) (value : Untyped) :
    Except DecodeError σ :=
  match value with
  | .map entries => recordOfMap fields start entries
  | .list items => recordOfList surplus what fields start items
  | other => .error (.wrongType other what)

/-- Documents as they are read. -/
def documents : Dialect Untyped DecodeError where
  text := text?
  flag := flag?
  count := word? "usize"
  path := path?
  choice _ := choice?
  record := record? .ofArray

end Untyped

end PageTimers
