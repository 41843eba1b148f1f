/-
# Settings written as expressions

A variable of the environment is a text, but what it says may be a truth
value, a number, or a list or a group of settings.  A text that is no
expression stands for itself, with the blanks at its ends.
-/
import PageTimers.Decimal.Notation
import PageTimers.Layers.Setting
import PageTimers.Text.Blank
import PageTimers.Text.Hex

namespace PageTimers

namespace Expression

/-- The blanks between the parts of an expression. -/
def isSpace (c : Char) : Bool := c = ' ' || c = '\t' || c = '\n' || c = '\x0c' || c = '\r'

def skipSpace (text : List Char) : List Char := text.dropWhile isSpace

/-- The characters that end a word. -/
def isSeparator (c : Char) : Bool := c = ',' || c = '{' || c = '}' || c = '[' || c = ']'

/-- The rest of a text that begins with the given word. -/
def after? (word : String) (text : List Char) : Option (List Char) :=
  if word.toList.isPrefixOf text then some (text.drop word.length) else none

/-! ## Texts in quotes -/

/-- The character with the code point that the digits give. -/
def codePoint? (digits : List Char) : Option Char :=
  (Text.hexNumber? digits).bind Text.charOf?

/-- The characters with an escape of one letter. -/
def shortEscape? : Char → Option Char
  | '"' => some '"'
  | '\\' => some '\\'
  | 'b' => some '\x08'
  | 'f' => some '\x0c'
  | 'n' => some '\n'
  | 'r' => some '\r'
  | 't' => some '\t'
  | _ => none

/-- Resolve the escapes in a text.  Control characters other than the tab
have to be escaped. -/
def unescape? : List Char → Option (List Char)
  | [] => some []
  | '\\' :: 'u' :: a :: b :: c :: d :: rest => do
    return (← codePoint? [a, b, c, d]) :: (← unescape? rest)
  | '\\' :: 'U' :: a :: b :: c :: d :: e :: f :: g :: h :: rest => do
    return (← codePoint? [a, b, c, d, e, f, g, h]) :: (← unescape? rest)
  | '\\' :: mark :: rest => do return (← shortEscape? mark) :: (← unescape? rest)
  | '\\' :: [] => none
  | c :: rest =>
    if c ≠ '\t' && (c.toNat < 0x20 || c.toNat = 0x7f) then none
    else (unescape? rest).map (c :: ·)

/-- Split a text before the first quote that is not escaped. -/
def untilQuote : List Char → List Char × List Char
  | [] => ([], [])
  | '"' :: rest => ([], '"' :: rest)
  | '\\' :: c :: rest =>
    let (inner, rest) := untilQuote rest
    ('\\' :: c :: inner, rest)
  | c :: rest =>
    let (inner, rest) := untilQuote rest
    (c :: inner, rest)

/-- A text in quotes, after the first of them. -/
def quoted? (text : List Char) : Option (String × List Char) :=
  match untilQuote text with
  | (inner, '"' :: rest) => (unescape? inner).map fun s => (String.ofList s, rest)
  | _ => none

/-! ## Words -/

/-- Digits only, at least one. -/
def natural? (digits : List Char) : Option Nat :=
  if digits.isEmpty || !digits.all Char.isDigit then none else some (Decimal.naturalOf digits)

/-- An unsigned number of 64 bits. -/
def unsigned? (word : List Char) : Option Nat :=
  let digits := match word with
    | '+' :: r => r
    | r => r
  (natural? digits).filter (· < word64)

/-- A number with a minus sign, of 64 bits. -/
def signed? (word : List Char) : Option Int :=
  match word with
  | '-' :: digits => ((natural? digits).filter (· ≤ signed64)).map fun n => -(n : Int)
  | _ => none

/-- What a word says: a number if it can be one. -/
def wordValue (word : List Char) : Setting :=
  let real := if word.contains '.' then Binary64.ofText? word else none
  match real, unsigned? word, signed? word with
  | some x, _, _ => .real x
  | none, some n, _ => .unsigned n
  | none, none, some n => .signed n
  | none, none, none => .text (String.ofList word)

/-! ## Expressions -/

/-- Whether a character may stand in the name of a field without quotes. -/
def isNameChar (c : Char) : Bool := c.isAlphanum || c = '_' || c = '-'

/-- The name of a field. -/
def name? (text : List Char) : Option (String × List Char) :=
  match text with
  | '"' :: rest => quoted? rest
  | text =>
    let name := text.takeWhile isNameChar
    if name.isEmpty then none else some (String.ofList name, text.dropWhile isNameChar)

mutual

/-- An expression at the start of a text, and what follows it. -/
def value? : (fuel : Nat) → List Char → Option (Setting × List Char)
  | 0, _ => none
  | fuel + 1, text => do
    let (setting, rest) ← bare? fuel (skipSpace text)
    return (setting, skipSpace rest)

/-- An expression without blanks around it. -/
def bare? : (fuel : Nat) → List Char → Option (Setting × List Char)
  | 0, _ => none
  | fuel + 1, text =>
    match after? "true" text, after? "false" text with
    | some rest, _ => some (.bool true, rest)
    | _, some rest => some (.bool false, rest)
    | none, none =>
      match text with
      | '{' :: rest => (fields? fuel rest).map fun (fields, rest) =>
        (.group (Fields.ofList fields), rest)
      | '[' :: rest => (items? fuel rest).map fun (items, rest) => (.list items, rest)
      | '"' :: rest => (quoted? rest).map fun (s, rest) => (.text s, rest)
      | '\'' :: c :: '\'' :: rest => some (.letter c, rest)
      | '\'' :: _ => none
      | text =>
        some (wordValue (Text.trimmed (text.takeWhile (!isSeparator ·))),
          text.dropWhile (!isSeparator ·))

/-- The items of a list, after the opening bracket. -/
def items? : (fuel : Nat) → List Char → Option (List Setting × List Char)
  | 0, _ => none
  | _, ']' :: rest => some ([], rest)
  | fuel + 1, text => do
    let (item, rest) ← value? fuel text
    match rest with
    | ',' :: rest => do
      let (items, rest) ← items? fuel rest
      return (item :: items, rest)
    | ']' :: rest => return ([item], rest)
    | _ => none

/-- The fields of a group, after the opening brace. -/
def fields? : (fuel : Nat) → List Char → Option (List (String × Setting) × List Char)
  | 0, _ => none
  | _, '}' :: rest => some ([], rest)
  | fuel + 1, text => do
    let (name, rest) ← name? (skipSpace text)
    match skipSpace rest with
    | '=' :: rest => do
      let (value, rest) ← value? fuel rest
      match rest with
      | ',' :: rest => do
        let (fields, rest) ← fields? fuel rest
        return ((name, value) :: fields, rest)
      | '}' :: rest => return ([(name, value)], rest)
      | _ => none
    | _ => none

end

end Expression

/-- What a text says, as an expression if it is one as a whole.  Every level
of an expression takes a character, and two turns. -/
def Setting.ofText (text : String) : Setting :=
  match Expression.value? (3 * text.length + 3) text.toList with
  | some (setting, []) => setting
  | _ => .text text

end PageTimers
