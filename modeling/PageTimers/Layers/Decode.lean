/-
# Settings with types

The layers are taken for what the settings should be.  What does not fit is
reported with the path that leads to it, and of several misfits the one
whose path comes first in the order of names.
-/
import PageTimers.Decode.Dialect
import PageTimers.Layers.Setting
import PageTimers.Settings

namespace PageTimers

inductive MisfitCause
  /-- A setting of another type. -/
  | wrongType (found : Setting) (expected : String)
  /-- A setting of the right type outside its range. -/
  | wrongValue (found : Setting) (expected : String)
  /-- A name that is none of the allowed ones. -/
  | unknownName (found : String) (allowed : List String)
deriving Repr

/-- A setting that does not fit, and where it is. -/
structure Misfit where
  path : List String
  cause : MisfitCause
deriving Repr

namespace Misfit

def message (misfit : Misfit) : String :=
  match misfit.cause with
  | .wrongType found expected => s!"invalid type: found {found.describe}, expected {expected}"
  | .wrongValue found expected => s!"invalid value {found.describe}, expected {expected}"
  | .unknownName found allowed =>
    "unknown variant: found `" ++ found ++ "`, expected `" ++
      DecodeError.alternatives allowed ++ "`"

/-- What is found under a name lies one step further down. -/
def under {α : Type} (name : String) : Except Misfit α → Except Misfit α
  | .ok a => .ok a
  | .error misfit => .error { misfit with path := name :: misfit.path }

end Misfit

namespace Setting

/-- Here is a setting of another type. -/
def wrongType {α : Type} (found : Setting) (expected : String) : Except Misfit α :=
  .error ⟨[], .wrongType found expected⟩

def text? : Setting → Except Misfit String
  | .text s => .ok s
  | .letter c => .ok (String.singleton c)
  | other => other.wrongType "a string"

def flag? : Setting → Except Misfit Bool
  | .bool b => .ok b
  | other => other.wrongType "a boolean"

/-- An unsigned number of 64 bits. -/
def count? : Setting → Except Misfit UInt64
  | .unsigned n =>
    if n < word64 then .ok (UInt64.ofNat n) else (Setting.unsigned n).wrongType "usize"
  | .signed n =>
    if signed64 < n.natAbs then (Setting.signed n).wrongType "usize"
    else if n < 0 then .error ⟨[], .wrongValue (.signed n) "usize"⟩
    else .ok (UInt64.ofNat n.toNat)
  | other => other.wrongType "usize"

def path? : Setting → Except Misfit (Option String)
  | .empty => .ok none
  | .text s => .ok (some s)
  | .letter c => .ok (some (String.singleton c))
  | other => other.wrongType "path string"

/-- Nothing stands under the name of a choice. -/
def nothing? : Setting → Except Misfit Unit
  | .empty => .ok ()
  | other => other.wrongType "unit"

/-- One of several names, alone or as the first field of a group, with
nothing under it. -/
def choice? {α : Type} (what : String) (options : List (String × α)) :
    Setting → Except Misfit α :=
  let named (name : String) : Except Misfit α :=
    match pick? name options with
    | some a => .ok a
    | none => .error ⟨[], .unknownName name (options.map (·.1))⟩
  fun
    | .text s => named s
    | .group [] => (Setting.group []).wrongType "enum"
    | .group ((name, content) :: _) => Misfit.under name do
      let a ← named name
      content.nothing?
      return a
    | other => other.wrongType s!"enum {what}"

variable {σ : Type}

/-- Read named fields one after the other.  A name that is none of the
record's is passed over. -/
def putNamed (fields : List (Field Setting Misfit σ)) :
    σ → List (String × Setting) → Except Misfit σ
  | record, [] => .ok record
  | record, (name, value) :: rest =>
    match fields.find? (·.name == name) with
    | none => putNamed fields record rest
    | some field => do putNamed fields (← Misfit.under name (field.put value record)) rest

/-- Read the fields in order, from the position `index` on. -/
def putInOrder : (index : Nat) → List (Field Setting Misfit σ) → σ → List Setting →
    Except Misfit σ
  | _, [], record, _ => .ok record
  | _, _ :: _, record, [] => .ok record
  | index, field :: fields, record, item :: items => do
    let record ← Misfit.under (toString index) (field.put item record)
    putInOrder (index + 1) fields record items

/-- A record by its named fields, or as a list of their values.  Fields that
are not given keep what they have. -/
def record? (what : String) (fields : List (Field Setting Misfit σ)) (start : σ) :
    Setting → Except Misfit σ
  | .group entries => putNamed fields start entries
  | .list items => putInOrder 0 fields start items
  | other => other.wrongType what

/-- Settings as they are read. -/
def layers : Dialect Setting Misfit where
  text := text?
  flag := flag?
  count := count?
  path := path?
  choice := choice?
  record := record?

end Setting

/-- The settings that a layer amounts to. -/
def Layer.settings? (layer : Layer) : Except Misfit Settings :=
  Settings.decode Setting.layers (.group layer)

end PageTimers
