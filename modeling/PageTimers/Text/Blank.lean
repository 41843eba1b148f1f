/-
# Blank characters

The White_Space property of the Unicode standard, and texts without their
blank ends.
-/
import PageTimers.Text.Ranges

namespace PageTimers.Text

/-- The characters with the White_Space property. -/
def blanks : Array (Nat × Nat) := #[
  (0x09, 0x0d), (0x20, 0x20), (0x85, 0x85), (0xa0, 0xa0), (0x1680, 0x1680),
  (0x2000, 0x200a), (0x2028, 0x2029), (0x202f, 0x202f), (0x205f, 0x205f), (0x3000, 0x3000)]

def isBlank (c : Char) : Bool := inRanges blanks c

/-- A text without the blanks at its ends. -/
def trimmed (text : List Char) : List Char :=
  ((text.dropWhile isBlank).reverse.dropWhile isBlank).reverse

/-- Whether a text holds nothing but blanks. -/
def isBlankText (s : String) : Bool := (trimmed s.toList).isEmpty

/-- A text with its ASCII letters in lower case. -/
def lowered (s : String) : String := String.ofList (s.toList.map Char.toLower)

end PageTimers.Text
