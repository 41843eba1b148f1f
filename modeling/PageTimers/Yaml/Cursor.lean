/-
# Characters and places in a YAML text

A cursor is what is left of the text and where that is.  Lines and columns
matter to the meaning of a text: indentation is what nests.
-/

namespace PageTimers.Yaml

/-! ## Classes of characters -/

/-- The characters that a text may hold. -/
def isPrintable (c : Char) : Bool :=
  let code := c.toNat
  code == 0x09 || code == 0x0a || code == 0x0d || (0x20 ≤ code && code ≤ 0x7e) ||
    code == 0x85 || (0xa0 ≤ code && code ≤ 0xfffd) || 0x10000 ≤ code

/-- The characters that end a line. -/
def isBreak (c : Char) : Bool :=
  c = '\n' || c = '\r' || c.toNat == 0x85 || c.toNat == 0x2028 || c.toNat == 0x2029

def isBlank (c : Char) : Bool := c = ' ' || c = '\t'

def isSpace (c : Char) : Bool := isBlank c || isBreak c

/-- The characters of names. -/
def isWord (c : Char) : Bool := c.isAlphanum || c = '_' || c = '-'

/-- Whether nothing visible follows: a space, a line break or the end. -/
def isGap (c : Option Char) : Bool :=
  match c with
  | none => true
  | some c => isSpace c

/-! ## Cursors -/

structure Cursor where
  /-- What is left of the text. -/
  rest : List Char
  /-- How many characters are behind. -/
  index : Nat
  line : Nat
  column : Nat
  /-- The length of the whole text. -/
  size : Nat
deriving Repr

namespace Cursor

def start (text : List Char) : Cursor := ⟨text, 0, 0, 0, text.length⟩

/-- More steps than there are characters left. -/
def fuel (c : Cursor) : Nat := c.size + 1

def head? (c : Cursor) : Option Char := c.rest.head?

/-- The character after the next `n`. -/
def at? (c : Cursor) (n : Nat) : Option Char := c.rest[n]?

/-- Whether the next character is `x`. -/
def isAt (c : Cursor) (x : Char) : Bool := c.head? == some x

/-- Go past `n` characters of the line. -/
def skip (c : Cursor) (n : Nat) : Cursor :=
  { c with rest := c.rest.drop n, index := c.index + n, column := c.column + n }

/-- The characters up to the first without a property that no line break
has, and the cursor behind them. -/
def span (c : Cursor) (p : Char → Bool) : List Char × Cursor :=
  let taken := c.rest.takeWhile p
  (taken, c.skip taken.length)

/-- Go past what has a property that no line break has. -/
def skipWhile (c : Cursor) (p : Char → Bool) : Cursor := (c.span p).2

/-- The line break at the cursor, as it counts in a text, and the cursor at
the beginning of the next line. -/
def lineBreak? (c : Cursor) : Option (Char × Cursor) :=
  let next (rest : List Char) (n : Nat) : Cursor := ⟨rest, c.index + n, c.line + 1, 0, c.size⟩
  match c.rest with
  | '\r' :: '\n' :: rest => some ('\n', next rest 2)
  | x :: rest =>
    if x.toNat == 0x2028 || x.toNat == 0x2029 then some (x, next rest 1)
    else if isBreak x then some ('\n', next rest 1)
    else none
  | [] => none

/-- Go to the next line, from the end of one. -/
def nextLine (c : Cursor) : Cursor :=
  match c.lineBreak? with
  | none => c
  | some (_, c) => c

/-- Whether one of the marks between documents is here. -/
def isAtMark (c : Cursor) (mark : Char) : Bool :=
  c.column == 0 && c.rest.take 3 == [mark, mark, mark] && isGap (c.at? 3)

def isAtDocumentMark (c : Cursor) : Bool := c.isAtMark '-' || c.isAtMark '.'

/-- Whether the line ends here. -/
def isAtLineEnd (c : Cursor) : Bool :=
  match c.head? with
  | none => true
  | some x => isBreak x

/-- Go past blanks and a comment to the end of the line, if there is nothing
else. -/
def restOfLine? (c : Cursor) : Option Cursor :=
  let c := c.skipWhile isBlank
  let c := if c.isAt '#' then c.skipWhile (!isBreak ·) else c
  if c.isAtLineEnd then some c.nextLine else none

end Cursor

end PageTimers.Yaml
