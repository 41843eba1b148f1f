/-
# Quoted text

Text in double quotes, as debugging views show it: every character either
stands for itself or is written as an escape, so that nothing invisible
passes unseen.
-/
import PageTimers.Text.Ranges
import PageTimers.Timer

namespace PageTimers.Text

/-- The lower case hexadecimal digits of a number. -/
def hexText (n : Nat) : List Char := Nat.toDigits 16 n

/-- One character inside the quotes.  Characters without a mark of their own
and characters that would attach themselves to the one before are written
by code point. -/
def quotedChar (c : Char) : List Char :=
  match c with
  | '\x00' => ['\\', '0']
  | '\t' => ['\\', 't']
  | '\r' => ['\\', 'r']
  | '\n' => ['\\', 'n']
  | '"' => ['\\', '"']
  | '\\' => ['\\', '\\']
  | c =>
    let isShown :=
      if c.toNat < 0x80 then 0x20 ≤ c.toNat && c.toNat < 0x7f
      else !inRanges hidden c && !inRanges extenders c
    if isShown then [c] else ['\\', 'u', '{'] ++ hexText c.toNat ++ ['}']

/-- A text in quotes. -/
def quoted (s : String) : String :=
  "\"" ++ String.ofList (s.toList.flatMap quotedChar) ++ "\""

/-- A list of texts in quotes, in brackets. -/
def quotedList (items : List String) : String :=
  "[" ++ ", ".intercalate (items.map quoted) ++ "]"

end PageTimers.Text

namespace PageTimers

/-- Texts serve as identifiers too. -/
instance : Identifier String where
  le a b := a ≤ b
  display s := s
  debug s := Text.quoted s

end PageTimers
