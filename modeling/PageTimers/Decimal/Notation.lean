/-
# Writing and reading doubles as text

A `Notation` says how the digits of a double are laid out: which decimal
exponents are written positionally, and whether an integral value keeps its
`.0`.  Two layouts are in use: documents (`documents`), where a float always
shows that it is one, and plain prose (`prose`), where nothing is ever
written with an exponent.
-/
import PageTimers.Decimal.Shortest

namespace PageTimers

/-- The layout decisions for the text of a double. -/
structure NumberLayout where
  /-- Decimal exponents written positionally; `none` stands for all of them. -/
  positional : Option (Int × Int)
  /-- Whether an integral value ends in `.0`. -/
  keepsPoint : Bool

namespace NumberLayout

/-- Documents: positional from `10 ^ -5` to below `10 ^ 16`, `.0` kept. -/
def documents : NumberLayout := ⟨some (-5, 15), true⟩

/-- Prose: always positional, no `.0`. -/
def prose : NumberLayout := ⟨none, false⟩

/-- Whether the exponent of the leading digit calls for positional form. -/
def isPositional (layout : NumberLayout) (lead : Int) : Bool :=
  match layout.positional with
  | none => true
  | some (low, high) => low ≤ lead && lead ≤ high

/-- Digits before and after the point, without an exponent. -/
def positionalText (layout : NumberLayout) (digits : List Char) (exponent : Int) : List Char :=
  let point := if layout.keepsPoint then ['.', '0'] else []
  if 0 ≤ exponent then
    if digits = ['0'] then digits ++ point
    else digits ++ List.replicate exponent.toNat '0' ++ point
  else
    let places := (-exponent).toNat
    if places < digits.length then
      digits.take (digits.length - places) ++ '.' :: digits.drop (digits.length - places)
    else
      '0' :: '.' :: (List.replicate (places - digits.length) '0' ++ digits)

/-- One digit before the point, and the exponent with its sign. -/
def scientificText (digits : List Char) (lead : Int) : List Char :=
  let rest := digits.drop 1
  digits.take 1 ++ (if rest = [] then [] else '.' :: rest) ++
    'e' :: (if lead < 0 then '-' else '+') :: (toString lead.natAbs).toList

/-- The text of a finite magnitude. -/
def magnitudeText (layout : NumberLayout) (d : Decimal) : List Char :=
  let digits := (toString d.digits).toList
  let lead : Int := (digits.length : Int) - 1 + d.exponent
  if layout.isPositional lead then layout.positionalText digits d.exponent
  else scientificText digits lead

end NumberLayout

namespace Binary64

/-- The text of a double in the given layout. -/
def render (layout : NumberLayout) (x : Binary64) : String :=
  let sign := if x.isNegative then "-" else ""
  if x.isNaN then "NaN"
  else if !x.isFinite then sign ++ "inf"
  else sign ++ String.ofList (layout.magnitudeText x.shortest)

end Binary64

namespace Decimal

/-- The value of a run of decimal digits. -/
def naturalOf (digits : List Char) : Nat :=
  digits.foldl (fun n c => 10 * n + (c.toNat - '0'.toNat)) 0

/-- An exponent part (`e`, a sign, digits) that is the whole of the text. -/
def exponentPart? : List Char → Option Int
  | [] => some 0
  | mark :: rest =>
    if mark = 'e' ∨ mark = 'E' then
      let (negative, digits) :=
        match rest with
        | '-' :: r => (true, r)
        | '+' :: r => (false, r)
        | r => (false, r)
      if digits.isEmpty || !digits.all Char.isDigit then none
      else some (if negative then -(naturalOf digits : Int) else naturalOf digits)
    else none

/-- An unsigned decimal number: digits with an optional point, at least one
digit, and an optional exponent. -/
def unsigned? (text : List Char) : Option Decimal :=
  let whole := text.takeWhile Char.isDigit
  let rest := text.dropWhile Char.isDigit
  let (places, rest) :=
    match rest with
    | '.' :: r => (r.takeWhile Char.isDigit, r.dropWhile Char.isDigit)
    | r => ([], r)
  if whole.isEmpty && places.isEmpty then none
  else
    (exponentPart? rest).map fun e =>
      ⟨naturalOf (whole ++ places), e - (places.length : Int)⟩

end Decimal

namespace Binary64

/-- The names of the values that are no decimal numbers, in any case. -/
def special? (negative : Bool) (text : List Char) : Option Binary64 :=
  match String.ofList (text.map Char.toLower) with
  | "inf" => some (infinity negative)
  | "infinity" => some (infinity negative)
  | "nan" => some nan
  | _ => none

/-- Read a double: an optional sign, then a decimal number or the name of a
special value. -/
def ofText? (text : List Char) : Option Binary64 :=
  let (negative, magnitude) :=
    match text with
    | '-' :: r => (true, r)
    | '+' :: r => (false, r)
    | r => (false, r)
  match Decimal.unsigned? magnitude with
  | some d => some (ofDecimal negative d.digits d.exponent)
  | none => special? negative magnitude

end Binary64

end PageTimers
