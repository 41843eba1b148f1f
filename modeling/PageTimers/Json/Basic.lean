/-
# JSON documents

A document is a tree.  Numbers keep the three kinds that a document can
show apart: naturals and negative integers of 64 bits, and doubles (`1` is
not `1.0`).  An object is a list of named fields in ascending order of
names, no name twice; `Fields.insert` keeps that, and `Fields.get?` is the
view through which everything else reads one.
-/
import PageTimers.Decimal.Notation

namespace PageTimers

/-- The range of the unsigned 64-bit numbers that documents and clocks hold. -/
def word64 : Nat := Nat.pow 2 64

/-- How far the signed ones reach below zero. -/
def signed64 : Nat := Nat.pow 2 63

inductive JsonNumber
  /-- `0, 1, …` below `2 ^ 64` -/
  | natural (n : UInt64)
  /-- A negative integer from `-2 ^ 63` on. -/
  | negative (n : Int64)
  /-- Whatever was written with a point or an exponent, or does not fit. -/
  | real (x : Binary64)
deriving DecidableEq, Repr, Inhabited

/-- An integer of 64 bits. -/
def JsonNumber.ofInt? (n : Int) : Option JsonNumber :=
  if 0 ≤ n then
    if n.toNat < word64 then some (.natural (UInt64.ofNat n.toNat)) else none
  else if n.natAbs ≤ signed64 then some (.negative (Int64.ofInt n))
  else none

inductive Json
  | null
  | bool (b : Bool)
  | number (n : JsonNumber)
  | string (s : String)
  | array (items : List Json)
  | object (fields : List (String × Json))
deriving Repr, Inhabited

namespace Json

/-- A natural number as a document; `n` is below `2 ^ 64` wherever this is
used. -/
def ofNat (n : Nat) : Json := .number (.natural (UInt64.ofNat n))

end Json

/-- A list of named fields, ascending by name. -/
abbrev Fields (α : Type) := List (String × α)

namespace Fields

variable {α β : Type}

/-- Set one field, in its place. -/
def insert (name : String) (value : α) : Fields α → Fields α
  | [] => [(name, value)]
  | (n, v) :: rest =>
    if name < n then (name, value) :: (n, v) :: rest
    else if name = n then (name, value) :: rest
    else (n, v) :: insert name value rest

/-- The value of a field. -/
def get? (name : String) : Fields α → Option α
  | [] => none
  | (n, v) :: rest => if n = name then some v else get? name rest

/-- Drop one field. -/
def erase (name : String) (fields : Fields α) : Fields α := fields.filter (·.1 ≠ name)

/-- The fields of a list of assignments, the last one of a name counting. -/
def ofList (assignments : List (String × α)) : Fields α :=
  assignments.foldl (fun fields (n, v) => fields.insert n v) []

end Fields

namespace Json

/-- The object with the given fields, the last one of a name counting. -/
def ofFields (fields : List (String × Json)) : Json := .object (Fields.ofList fields)

/-- The field of an object; anything else has none. -/
def field? (name : String) : Json → Option Json
  | .object fields => Fields.get? name fields
  | _ => none

/-- Follow a path of field names; a link that is missing, or that is no
object, leads nowhere. -/
def descend? : List String → Json → Option Json
  | [], document => some document
  | name :: path, document => (document.field? name).bind (descend? path)

/-- An optional value, `null` where there is none. -/
def ofOption {α : Type} (encode : α → Json) : Option α → Json
  | none => .null
  | some a => encode a

/-- The way a scripting page reads a value as a condition: `null`, `false`,
zero of either sign, NaN and the empty string do not hold, all else does,
empty arrays and objects included. -/
def isTruthy : Json → Bool
  | .null => false
  | .bool b => b
  | .number (.natural n) => n != 0
  | .number (.negative n) => n != 0
  | .number (.real x) => !x.isZero && !x.isNaN
  | .string s => s != ""
  | .array _ => true
  | .object _ => true

/-- The values that do not hold as a condition. -/
inductive IsFalsy : Json → Prop
  | null : IsFalsy .null
  | no : IsFalsy (.bool false)
  | natural : IsFalsy (.number (.natural 0))
  | negative : IsFalsy (.number (.negative 0))
  /-- The zero of either sign. -/
  | zero (negative : Bool) : IsFalsy (.number (.real (.zero negative)))
  /-- A number that is neither finite nor an infinity. -/
  | nan (x : Binary64) : x.isFinite = false → (∀ negative, x ≠ .infinity negative) →
      IsFalsy (.number (.real x))
  | blank : IsFalsy (.string "")

theorem isTruthy_eq_false_iff {value : Json} : value.isTruthy = false ↔ value.IsFalsy := by
  constructor
  · intro h
    cases value with
    | null => exact .null
    | bool b =>
        cases h
        exact .no
    | number n =>
        cases n with
        | natural n =>
            obtain rfl : n = 0 := by simpa [isTruthy] using h
            exact .natural
        | negative n =>
            obtain rfl : n = 0 := by simpa [isTruthy] using h
            exact .negative
        | real x =>
            rw [isTruthy, Bool.and_eq_false_iff, Bool.not_eq_false', Bool.not_eq_false'] at h
            rcases h with hzero | hnan
            · obtain ⟨negative, rfl⟩ := Binary64.isZero_iff.mp hzero
              exact .zero negative
            · obtain ⟨hfinite, hinfinity⟩ := Binary64.isNaN_iff.mp hnan
              exact .nan x hfinite hinfinity
    | string s =>
        obtain rfl : s = "" := by simpa [isTruthy] using h
        exact .blank
    | array items => cases h
    | object fields => cases h
  · intro h
    cases h with
    | null | no | natural | negative | blank => rfl
    | zero negative => cases negative <;> rfl
    | nan x hfinite hinfinity =>
        rw [isTruthy, Binary64.isNaN_iff.mpr ⟨hfinite, hinfinity⟩, Bool.not_true, Bool.and_false]

theorem isTruthy_iff {value : Json} : value.isTruthy = true ↔ ¬ value.IsFalsy := by
  rw [← isTruthy_eq_false_iff, Bool.not_eq_false]

end Json

end PageTimers
