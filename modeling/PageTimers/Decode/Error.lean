/-
# Why a value does not fit

One cause each, with the wording in `DecodeError.message`.
-/
import PageTimers.Decode.Untyped

namespace PageTimers

inductive DecodeError
  /-- A value of another type. -/
  | wrongType (found : Untyped) (expected : String)
  /-- A value of the right type outside its range. -/
  | wrongValue (found : Untyped) (expected : String)
  | wrongLength (length : Nat) (expected : String)
  | missingField (name : String)
  | duplicateField (name : String)
  /-- A name that is none of the allowed ones. -/
  | unknownVariant (found : String) (allowed : List String)
deriving Repr, Inhabited

namespace DecodeError

/-- The allowed names, as an error lists them. -/
def alternatives (names : List String) : String :=
  let marked := names.map fun name => "`" ++ name ++ "`"
  match marked with
  | [a, b] => a ++ " or " ++ b
  | [a] => a
  | many => "one of " ++ ", ".intercalate many

def message : DecodeError → String
  | wrongType found expected => s!"invalid type: {found.describe}, expected {expected}"
  | wrongValue found expected => s!"invalid value: {found.describe}, expected {expected}"
  | wrongLength length expected => s!"invalid length {length}, expected {expected}"
  | missingField name => "missing field `" ++ name ++ "`"
  | duplicateField name => "duplicate field `" ++ name ++ "`"
  | unknownVariant found allowed =>
    "unknown variant `" ++ found ++ "`, expected " ++ alternatives allowed

end DecodeError

end PageTimers
