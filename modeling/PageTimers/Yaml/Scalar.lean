/-
# Scalars in a YAML text

Plain, quoted and block scalars.  What all of them have in common is
folding: a line break between two lines counts as a space, and further ones
count as themselves.
-/
import PageTimers.Text.Hex
import PageTimers.Yaml.Cursor

namespace PageTimers.Yaml

/-! ## Gaps -/

/-- The white space between two words of a scalar. -/
structure Gap where
  /-- Whether there is a line break in it. -/
  broken : Bool
  /-- The blanks, as long as there is no line break; the last one first. -/
  blanks : List Char
  /-- The first line break. -/
  first : Option Char
  /-- The other line breaks, the last one first. -/
  others : List Char

namespace Gap

def none : Gap := ⟨false, [], .none, []⟩

/-- What a gap counts for. -/
def text (gap : Gap) : List Char :=
  if !gap.broken then gap.blanks.reverse
  else if gap.first = some '\n' then
    if gap.others.isEmpty then [' '] else gap.others.reverse
  else gap.first.toList ++ gap.others.reverse

/-- One more line break. -/
def lineBreak (gap : Gap) (c : Char) : Gap :=
  if gap.broken then { gap with others := c :: gap.others }
  else { gap with broken := true, blanks := [], first := some c }

/-- Read on to the end of a gap.  A tab left of the column `tabsFrom` does
not count as indentation and is refused. -/
def extend? (tabsFrom : Nat) : (fuel : Nat) → Gap → Cursor → Option (Gap × Cursor)
  | 0, gap, c => some (gap, c)
  | fuel + 1, gap, c =>
    match c.head? with
    | .none => some (gap, c)
    | some x =>
      if isBlank x then
        if gap.broken then
          if x = '\t' && c.column < tabsFrom then .none
          else extend? tabsFrom fuel gap (c.skip 1)
        else extend? tabsFrom fuel { gap with blanks := x :: gap.blanks } (c.skip 1)
      else
        match c.lineBreak? with
        | .none => some (gap, c)
        | some (b, c) => extend? tabsFrom fuel (gap.lineBreak b) c

end Gap

/-- A scalar that was read: its text, whether it ended with a new line begun,
and the cursor behind it. -/
structure Read where
  text : List Char
  broken : Bool
  cursor : Cursor

/-! ## Plain scalars -/

/-- The indicators that end a plain scalar inside brackets. -/
def isFlowIndicator (c : Char) : Bool :=
  c = ',' || c = '[' || c = ']' || c = '{' || c = '}'

/-- How many of the next characters belong to a plain scalar.  Inside
brackets, a colon before another indicator is refused. -/
def plainRun? (inFlow : Bool) : List Char → Option Nat
  | [] => some 0
  | c :: rest =>
    if isSpace c then some 0
    else if inFlow && c = ':' &&
        rest.head?.any (fun d => isFlowIndicator d || d = '?') then none
    else if (c = ':' && isGap rest.head?) || (inFlow && isFlowIndicator c) then some 0
    else (plainRun? inFlow rest).map (· + 1)

/-- Read on in a plain scalar.  `done` is the text so far, the last
character first. -/
def plainFrom? (inFlow : Bool) (indent : Nat) :
    (fuel : Nat) → (done : List Char) → Gap → Cursor → Option Read
  | 0, done, gap, c => some ⟨done.reverse, gap.broken, c⟩
  | fuel + 1, done, gap, c => do
    let stop : Read := ⟨done.reverse, gap.broken, c⟩
    if c.isAtDocumentMark || c.isAt '#' then return stop
    let n ← plainRun? inFlow c.rest
    if n = 0 then return stop
    let done := (c.rest.take n).reverse ++ gap.text.reverse ++ done
    let c := c.skip n
    let (gap, behind) ← Gap.none.extend? indent c.fuel c
    if behind.index = c.index then return ⟨done.reverse, false, c⟩
    if !inFlow && behind.column < indent then return ⟨done.reverse, gap.broken, behind⟩
    plainFrom? inFlow indent fuel done gap behind

/-- Read a plain scalar, to be indented by at least `indent`. -/
def plain? (inFlow : Bool) (indent : Nat) (c : Cursor) : Option Read :=
  plainFrom? inFlow indent c.fuel [] .none c

/-! ## Quoted scalars -/

/-- What a one-letter escape stands for. -/
def escape? : Char → Option Char
  | '0' => some '\x00'
  | 'a' => some '\x07'
  | 'b' => some '\x08'
  | 't' => some '\t'
  | '\t' => some '\t'
  | 'n' => some '\n'
  | 'v' => some '\x0b'
  | 'f' => some '\x0c'
  | 'r' => some '\r'
  | 'e' => some '\x1b'
  | ' ' => some ' '
  | '"' => some '"'
  | '/' => some '/'
  | '\\' => some '\\'
  | 'N' => some (Char.ofNat 0x85)
  | '_' => some (Char.ofNat 0xa0)
  | 'L' => some (Char.ofNat 0x2028)
  | 'P' => some (Char.ofNat 0x2029)
  | _ => none

/-- How many hexadecimal digits follow an escape. -/
def escapeDigits? : Char → Option Nat
  | 'x' => some 2
  | 'u' => some 4
  | 'U' => some 8
  | _ => none

/-- The value of the first `n` characters, all of them hexadecimal digits. -/
def escapeNumber? (n : Nat) (text : List Char) : Option Nat :=
  if (text.take n).length = n then Text.hexNumber? (text.take n) else none

/-- The characters up to the next gap or quote, the last one first, behind
`done`; and whether they end with an escaped line break. -/
def quotedRun? (single : Bool) :
    (fuel : Nat) → (done : List Char) → Cursor → Option (List Char × Bool × Cursor)
  | 0, done, c => some (done, false, c)
  | fuel + 1, done, c =>
    match c.rest with
    | [] => some (done, false, c)
    | x :: rest =>
      if isSpace x then some (done, false, c)
      else if single then
        match x, rest with
        | '\'', '\'' :: _ => quotedRun? single fuel ('\'' :: done) (c.skip 2)
        | '\'', _ => some (done, false, c)
        | x, _ => quotedRun? single fuel (x :: done) (c.skip 1)
      else
        match x, rest with
        | '"', _ => some (done, false, c)
        | '\\', [] => none
        | '\\', e :: digits =>
          if isBreak e then some (done, true, (c.skip 1).nextLine)
          else
            match escapeDigits? e with
            | some n =>
              match (escapeNumber? n digits).bind Text.charOf? with
              | none => none
              | some d => quotedRun? single fuel (d :: done) (c.skip (n + 2))
            | none =>
              match escape? e with
              | none => none
              | some d => quotedRun? single fuel (d :: done) (c.skip 2)
        | x, _ => quotedRun? single fuel (x :: done) (c.skip 1)

/-- Read on in a quoted scalar, up to its closing quote. -/
def quotedFrom? (single : Bool) :
    (fuel : Nat) → (done : List Char) → Cursor → Option Read
  | 0, _, _ => none
  | fuel + 1, done, c => do
    if c.isAtDocumentMark then none
    let (done, escaped, c) ← quotedRun? single c.fuel done c
    match c.head? with
    | none => none
    | some x =>
      if x = (if single then '\'' else '"') then
        return ⟨done.reverse, false, c.skip 1⟩
      let (gap, c) ← Gap.extend? 0 c.fuel { Gap.none with broken := escaped } c
      quotedFrom? single fuel (gap.text.reverse ++ done) c

/-- Read a quoted scalar, from its opening quote on. -/
def quoted? (single : Bool) (c : Cursor) : Option Read :=
  quotedFrom? single c.fuel [] (c.skip 1)

/-! ## Block scalars -/

/-- What becomes of the line breaks at the end of a block. -/
inductive Chomping
  | strip
  | clip
  | keep
deriving DecidableEq, Repr

/-- The chomping and the indentation that a header asks for, in either
order. -/
def blockHeader? (c : Cursor) : Option (Chomping × Option Nat × Cursor) :=
  let chomping? (c : Cursor) : Option (Chomping × Cursor) :=
    match c.head? with
    | some '+' => some (.keep, c.skip 1)
    | some '-' => some (.strip, c.skip 1)
    | _ => none
  let digit? (c : Cursor) : Option (Nat × Cursor) :=
    match c.head? with
    | some d => if d.isDigit then some (d.toNat - '0'.toNat, c.skip 1) else none
    | none => none
  let header : Chomping × Option Nat × Cursor :=
    match chomping? c with
    | some (chomping, c) =>
      match digit? c with
      | some (n, c) => (chomping, some n, c)
      | none => (chomping, none, c)
    | none =>
      match digit? c with
      | none => (.clip, none, c)
      | some (n, c) =>
        match chomping? c with
        | some (chomping, c) => (chomping, some n, c)
        | none => (.clip, some n, c)
  if header.2.1 = some 0 then none else some header

/-- Empty lines and the indentation of the line after them.  Where the
indentation is not known yet, the widest one seen decides (`widest`). -/
def blockBreaks? (indent : Option Nat) :
    (fuel widest : Nat) → (breaks : List Char) → Cursor → Option (List Char × Nat × Cursor)
  | 0, widest, breaks, c => some (breaks, widest, c)
  | fuel + 1, widest, breaks, c =>
    let left := match indent with
      | none => c.size
      | some n => n - c.column
    let spaces := ((c.rest.take left).takeWhile (· = ' ')).length
    let c := c.skip spaces
    let widest := max widest c.column
    let isLeft := match indent with
      | none => true
      | some n => c.column < n
    if isLeft && c.isAt '\t' then none
    else
      match c.lineBreak? with
      | none => some (breaks, widest, c)
      | some (b, c) => blockBreaks? indent fuel widest (b :: breaks) c

/-- The lines of a block, once its indentation is known.  `done` is the text
so far, the last character first; `first` is the line break behind it,
`breaks` those after that one, the last one first. -/
def blockLines? (literal : Bool) (indent : Nat) :
    (fuel : Nat) → (done : List Char) → (wasBlank : Bool) → (first : Option Char) →
      (breaks : List Char) → Cursor → Option (List Char × Option Char × List Char × Cursor)
  | 0, done, _, first, breaks, c => some (done, first, breaks, c)
  | fuel + 1, done, wasBlank, first, breaks, c => do
    if c.column ≠ indent then return (done, first, breaks, c)
    match c.head? with
    | none => return (done, first, breaks, c)
    | some x =>
      let blank := isBlank x
      let joined :=
        if !literal && first = some '\n' && !wasBlank && !blank then
          if breaks.isEmpty then [' '] else []
        else first.toList
      let (line, c) := c.span (!isBreak ·)
      let done := line.reverse ++ (breaks ++ (joined ++ done))
      let (first, c) := match c.lineBreak? with
        | none => (none, c)
        | some (b, c) => (some b, c)
      let (breaks, _, c) ← blockBreaks? (some indent) c.fuel 0 [] c
      blockLines? literal indent fuel done blank first breaks c

/-- Read a block scalar, from its indicator on.  `parent` is the indentation
around it. -/
def block? (literal : Bool) (parent : Int) (c : Cursor) : Option Read := do
  let (chomping, increment, c) ← blockHeader? (c.skip 1)
  let c ← c.restOfLine?
  let fuel := c.fuel
  let given := increment.map fun n => (max parent 0).toNat + n
  let (breaks, widest, c) ← blockBreaks? given fuel 0 [] c
  let indent := given.getD (max widest (max (parent + 1).toNat 1))
  let (done, first, breaks, c) ← blockLines? literal indent fuel [] false none breaks c
  let ending := match chomping with
    | .strip => []
    | .clip => first.toList
    | .keep => first.toList ++ breaks.reverse
  return ⟨done.reverse ++ ending, true, c⟩

end PageTimers.Yaml
