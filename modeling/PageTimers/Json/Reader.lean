/-
# Reading JSON text

`Json.parse?` reads one document, with blanks around it and nothing else.
Integers that fit a 64-bit word stay integers; `-0`, numbers with a point or
an exponent, and integers that do not fit become doubles.  A name that an
object gives twice counts with its last value.

Every function takes the rest of the text as a list of characters and gives
back what it did not use; the fuel that bounds the nesting and the number of
items is the length of the text, so it never runs out first.
-/
import PageTimers.Json.Basic
import PageTimers.Text.Hex

namespace PageTimers

namespace Json

/-- The blanks that may stand between tokens. -/
def isBlank (c : Char) : Bool :=
  c == ' ' || c == '\n' || c == '\r' || c == '\t'

def skipBlanks (text : List Char) : List Char := text.dropWhile isBlank

/-- The character of an escape by one letter. -/
def simpleEscape? : Char → Option Char
  | '"' => some '"'
  | '\\' => some '\\'
  | '/' => some '/'
  | 'b' => some '\x08'
  | 'f' => some '\x0c'
  | 'n' => some '\n'
  | 'r' => some '\r'
  | 't' => some '\t'
  | _ => none

/-- The inside of a string up to its closing quote, read onto `done`
(latest character first).  A character outside the basic plane is written
as two escapes, and half of such a pair alone is no character. -/
def readString : (fuel : Nat) → (done : List Char) → List Char → Option (String × List Char)
  | 0, _, _ => none
  | fuel + 1, done, text =>
    match text with
    | [] => none
    | '"' :: rest => some (String.ofList done.reverse, rest)
    | '\\' :: 'u' :: a :: b :: c :: d :: rest =>
      match Text.hexNumber? [a, b, c, d] with
      | none => none
      | some high =>
        if 0xD800 ≤ high ∧ high < 0xDC00 then
          match rest with
          | '\\' :: 'u' :: a :: b :: c :: d :: rest =>
            match Text.hexNumber? [a, b, c, d] with
            | none => none
            | some low =>
              if 0xDC00 ≤ low ∧ low < 0xE000 then
                let code := 0x10000 + (high - 0xD800) * 0x400 + (low - 0xDC00)
                readString fuel (Char.ofNat code :: done) rest
              else none
          | _ => none
        else if 0xDC00 ≤ high ∧ high < 0xE000 then none
        else readString fuel (Char.ofNat high :: done) rest
    | '\\' :: e :: rest =>
      match simpleEscape? e with
      | none => none
      | some c => readString fuel (c :: done) rest
    | c :: rest => if c.toNat < 32 then none else readString fuel (c :: done) rest

/-- The characters that a number may hold. -/
def isNumberChar (c : Char) : Bool :=
  c.isDigit || c == '-' || c == '+' || c == '.' || c == 'e' || c == 'E'

/-- The number written by an unsigned lexeme and a sign. -/
def numberOf? (negative : Bool) (lexeme : List Char) : Option JsonNumber :=
  match lexeme with
  | [] => none
  | c :: rest =>
    if !c.isDigit then none
    -- no superfluous leading zero
    else if c == '0' && (rest.head?.map Char.isDigit).getD false then none
    else if lexeme.getLast? == some '.' then none
    else
      match Decimal.unsigned? lexeme with
      | none => none
      | some d =>
        let real := JsonNumber.real (Binary64.ofDecimal negative d.digits d.exponent)
        if !lexeme.all Char.isDigit then some real
        else if negative then
          if d.digits = 0 ∨ signed64 < d.digits then some real
          else some (.negative (Int64.ofInt (-(d.digits : Int))))
        else if d.digits < word64 then some (.natural (UInt64.ofNat d.digits))
        else some real

/-- A number and the text after it. -/
def readNumber (text : List Char) : Option (JsonNumber × List Char) :=
  let (negative, rest) :=
    match text with
    | '-' :: r => (true, r)
    | r => (false, r)
  let lexeme := rest.takeWhile isNumberChar
  (numberOf? negative lexeme).map (·, rest.dropWhile isNumberChar)

/-- Items between commas up to `close`, each read by `item`; at least one. -/
def readItems {α : Type} (item : List Char → Option (α × List Char)) (close : Char) :
    (fuel : Nat) → Array α → List Char → Option (Array α × List Char)
  | 0, _, _ => none
  | fuel + 1, done, text =>
    match item text with
    | none => none
    | some (a, rest) =>
      match skipBlanks rest with
      | ',' :: rest => readItems item close fuel (done.push a) (skipBlanks rest)
      | c :: rest => if c = close then some (done.push a, rest) else none
      | [] => none

/-- A name, a colon and a value. -/
def readField (value : List Char → Option (Json × List Char)) (text : List Char) :
    Option ((String × Json) × List Char) :=
  match text with
  | '"' :: rest =>
    match readString (rest.length + 1) [] rest with
    | none => none
    | some (name, rest) =>
      match skipBlanks rest with
      | ':' :: rest => (value (skipBlanks rest)).map fun (v, rest) => ((name, v), rest)
      | _ => none
  | _ => none

/-- A document at the head of the text. -/
def readValue : (fuel : Nat) → List Char → Option (Json × List Char)
  | 0, _ => none
  | fuel + 1, text =>
    match text with
    | 'n' :: 'u' :: 'l' :: 'l' :: rest => some (.null, rest)
    | 't' :: 'r' :: 'u' :: 'e' :: rest => some (.bool true, rest)
    | 'f' :: 'a' :: 'l' :: 's' :: 'e' :: rest => some (.bool false, rest)
    | '"' :: rest =>
      (readString (rest.length + 1) [] rest).map fun (s, rest) => (.string s, rest)
    | '[' :: rest =>
      match skipBlanks rest with
      | ']' :: rest => some (.array [], rest)
      | rest =>
        (readItems (readValue fuel) ']' (rest.length + 1) #[] rest).map fun (items, rest) =>
          (.array items.toList, rest)
    | '{' :: rest =>
      match skipBlanks rest with
      | '}' :: rest => some (.object [], rest)
      | rest =>
        (readItems (readField (readValue fuel)) '}' (rest.length + 1) #[] rest).map
          fun (fields, rest) => (Json.ofFields fields.toList, rest)
    | text => (readNumber text).map fun (n, rest) => (.number n, rest)

/-- The document that is the whole of a text, blanks around it allowed. -/
def parse? (text : String) : Option Json :=
  let chars := text.toList
  match readValue (chars.length + 1) (skipBlanks chars) with
  | some (document, rest) => if (skipBlanks rest).isEmpty then some document else none
  | none => none

end Json

end PageTimers
