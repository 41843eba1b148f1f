/-
# Settings in layers

Settings come from several places, one laid over the other.  What a place
gives is a tree of settings, whose types are still to be decided.  Where two
trees are laid one over the other, groups are merged field by field, and
anything else on top hides what is below.
-/
import PageTimers.Json.Basic
import PageTimers.Text.Quoted

namespace PageTimers

inductive Setting
  /-- Nothing, but said so. -/
  | empty
  | bool (b : Bool)
  /-- A number written without a minus sign. -/
  | unsigned (n : Nat)
  | signed (n : Int)
  | real (x : Binary64)
  | text (s : String)
  /-- A text of one character, marked as such. -/
  | letter (c : Char)
  | list (items : List Setting)
  | group (fields : List (String × Setting))
deriving Repr, Inhabited

/-- A tree of settings, by its top level. -/
abbrev Layer := Fields Setting

namespace Setting

mutual

/-- Lay a setting over another. -/
def laidOn : (upper : Setting) → (lower : Setting) → Setting
  | .group upper, .group lower => .group (fieldsLaidOn upper lower)
  | upper, _ => upper

/-- Lay fields over others: what is on both sides is merged. -/
def fieldsLaidOn : (upper : Fields Setting) → (lower : Fields Setting) → Fields Setting
  | [], lower => lower
  | (name, value) :: rest, lower =>
    let merged := match lower.get? name with
      | some below => laidOn value below
      | none => value
    (fieldsLaidOn rest lower).insert name merged

end

/-- The setting at the end of a path of names. -/
def descend? : (path : List String) → Setting → Option Setting
  | [], setting => some setting
  | name :: path, .group fields => (Fields.get? name fields).bind (descend? path)
  | _ :: _, _ => none

/-- The tree in which a path leads to a setting, and nothing else does. -/
def atPath : (path : List String) → Setting → Setting
  | [], setting => setting
  | name :: path, setting => .group [(name, atPath path setting)]

/-- How a number of at most 64 bits is called, or one of more. -/
def numberText (fits : Bool) (kind wide : String) (n : String) : String :=
  if fits then kind ++ " int `" ++ n ++ "`" else "integer `" ++ n ++ "` as " ++ wide

/-- What a setting is, as an error names it. -/
def describe : Setting → String
  | .empty => "unit"
  | .bool b => "bool " ++ (if b then "true" else "false")
  | .unsigned n => numberText (n < word64) "unsigned" "u128" (toString n)
  | .signed n => numberText (n.natAbs ≤ signed64) "signed" "i128" (toString n)
  | .real x => "float `" ++ x.render .prose ++ "`"
  | .text s => "string " ++ Text.quoted s
  | .letter c => "string " ++ Text.quoted (String.singleton c)
  | .list _ => "sequence"
  | .group _ => "map"

end Setting

/-- Lay layers one over the other, the lowest first. -/
def Layer.stack (layers : List Layer) : Layer :=
  layers.foldl (fun lower upper => Setting.fieldsLaidOn upper lower) []

end PageTimers
