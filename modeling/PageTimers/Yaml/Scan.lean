/-
# From text to tokens

The scanner reads a text once, from the left.  Whether a scalar is a key
shows only at the colon behind it; so the places where a key may have begun
are remembered, one for the block and one for each open bracket, and its
token is put in there later.

Tokens are kept with the last one first.
-/
import PageTimers.Yaml.Scalar
import PageTimers.Yaml.Token

namespace PageTimers.Yaml

/-- A place where a key may have begun. -/
structure KeyStart where
  /-- Whether nothing but a key can stand there. -/
  required : Bool
  /-- How many tokens there were before it. -/
  tokens : Nat
  index : Nat
  line : Nat
  column : Nat
deriving Repr

structure Scanner where
  cursor : Cursor
  /-- The last token first. -/
  tokens : List Token
  /-- How many tokens there are. -/
  count : Nat
  /-- The indentation of the innermost block; -1 outside of all blocks. -/
  indent : Int
  /-- The indentations of the blocks around it, the inner ones first. -/
  indents : List Int
  /-- Whether a key may begin here. -/
  keyAllowed : Bool
  /-- Where the key of the block may have begun. -/
  blockKey : Option KeyStart
  /-- The same for each open bracket, the innermost first. -/
  flowKeys : List (Option KeyStart)
deriving Repr

namespace Scanner

def start (text : List Char) : Scanner := ⟨.start text, [], 0, -1, [], true, none, []⟩

def inFlow (s : Scanner) : Bool := !s.flowKeys.isEmpty

def emit (s : Scanner) (token : Token) : Scanner :=
  { s with tokens := token :: s.tokens, count := s.count + 1 }

/-- Put tokens behind the first `n`. -/
def emitAt (s : Scanner) (n : Nat) (tokens : List Token) : Scanner :=
  let later := s.count - n
  { s with
    tokens := s.tokens.take later ++ (tokens.reverse ++ s.tokens.drop later)
    count := s.count + tokens.length }

/-- Take a token of `n` characters. -/
def take (s : Scanner) (n : Nat) (token : Token) : Scanner :=
  { s.emit token with cursor := s.cursor.skip n }

def allowKey (s : Scanner) (allowed : Bool) : Scanner := { s with keyAllowed := allowed }

/-! ## Keys -/

/-- Where the innermost key may have begun. -/
def keyStart? (s : Scanner) : Option KeyStart :=
  match s.flowKeys with
  | [] => s.blockKey
  | key :: _ => key

def setKeyStart (s : Scanner) (key : Option KeyStart) : Scanner :=
  match s.flowKeys with
  | [] => { s with blockKey := key }
  | _ :: outer => { s with flowKeys := key :: outer }

/-- The innermost key has not come about; `none` if it had to. -/
def dropKey? (s : Scanner) : Option Scanner :=
  match s.keyStart? with
  | none => some s
  | some key => if key.required then none else some (s.setKeyStart none)

/-- Remember that a key may begin here. -/
def noteKey? (s : Scanner) : Option Scanner :=
  if s.keyAllowed then do
    let s ← s.dropKey?
    let c := s.cursor
    return s.setKeyStart (some
      ⟨!s.inFlow && s.indent == (c.column : Int), s.count, c.index, c.line, c.column⟩)
  else some s

/-- A key is on one line and at most 1024 characters long. -/
def isStale (c : Cursor) (key : KeyStart) : Bool :=
  key.line < c.line || key.index + 1024 < c.index

/-- Forget about a key that is over; `none` if it had to come about. -/
def expire? (c : Cursor) (key : Option KeyStart) : Option (Option KeyStart) :=
  match key with
  | none => some none
  | some key =>
    if isStale c key then if key.required then none else some none
    else some (some key)

/-- Forget about all keys that are over. -/
def expireKeys? (s : Scanner) : Option Scanner := do
  let blockKey ← expire? s.cursor s.blockKey
  let flowKeys ← s.flowKeys.mapM (expire? s.cursor)
  return { s with blockKey := blockKey, flowKeys := flowKeys }

/-! ## Blocks -/

/-- Begin a block at a column, unless it is begun already or this is inside
brackets.  Its token goes behind the first `n`. -/
def openBlock (s : Scanner) (column n : Nat) (token : Token) : Scanner :=
  if !s.inFlow && s.indent < (column : Int) then
    { s.emitAt n [token] with indent := column, indents := s.indent :: s.indents }
  else s

/-- Close blocks, the innermost of which are `indents`, down to a column. -/
def closeFrom (column : Int) : (indents : List Int) → Scanner → Scanner
  | indents, s =>
    if s.indent ≤ column then s
    else
      match indents with
      | [] => s
      | outer :: rest =>
        closeFrom column rest { s.emit .blockEnd with indent := outer, indents := rest }

/-- Close the blocks that are indented further than a column. -/
def closeBlocks (s : Scanner) (column : Int) : Scanner :=
  if s.inFlow then s else closeFrom column s.indents s

/-- All blocks are over, and no key is open. -/
def leaveBlocks? (s : Scanner) : Option Scanner := do
  return (← (s.closeBlocks (-1)).dropKey?).allowKey false

/-! ## Tokens -/

/-- Go past blanks, comments and line breaks to the next token.  A tab may
not stand where a key may begin in a block. -/
def toNext : (fuel : Nat) → Scanner → Scanner
  | 0, s => s
  | fuel + 1, s =>
    let c := s.cursor
    let c := if c.index = 0 && c.isAt (Char.ofNat 0xfeff) then c.skip 1 else c
    let c := c.skipWhile fun x => x = ' ' || (x = '\t' && (s.inFlow || !s.keyAllowed))
    let c := if c.isAt '#' then c.skipWhile (!isBreak ·) else c
    match c.lineBreak? with
    | none => { s with cursor := c }
    | some (_, c) =>
      toNext fuel { s with cursor := c, keyAllowed := s.keyAllowed || !s.inFlow }

/-- The characters of a percent escape in a tag, as an octet. -/
def octet? (text : List Char) : Option Nat :=
  match text with
  | '%' :: a :: b :: _ => Text.hexNumber? [a, b]
  | _ => none

/-- The character that percent escapes stand for, and how many there are. -/
def escapedChar? (text : List Char) : Option (Char × Nat) := do
  let first ← octet? text
  let (n, lead) ←
    if first < 0x80 then some (1, first)
    else if 0xc0 ≤ first && first < 0xe0 then some (2, first % 0x20)
    else if 0xe0 ≤ first && first < 0xf0 then some (3, first % 0x10)
    else if 0xf0 ≤ first && first < 0xf8 then some (4, first % 0x08)
    else none
  let code ← (List.range (n - 1)).foldlM (fun code i => do
    let next ← octet? (text.drop (3 * (i + 1)))
    if next / 0x40 = 2 then some (0x40 * code + next % 0x40) else none) lead
  return (← Text.charOf? code, n)

/-- The characters of a tag.  Inside angle brackets, commas and brackets
are allowed as well. -/
def isTagChar (verbatim : Bool) (c : Char) : Bool :=
  isWord c || ";/?:@&=+$.!~*'()%".toList.contains c || (verbatim && ",[]".toList.contains c)

/-- Read the characters of a tag, with escapes; the last one comes first. -/
def tagChars? (verbatim : Bool) :
    (fuel : Nat) → (done : List Char) → Cursor → Option (List Char × Cursor)
  | 0, done, c => some (done, c)
  | fuel + 1, done, c =>
    match c.head? with
    | none => some (done, c)
    | some x =>
      if x = '%' then
        match escapedChar? c.rest with
        | none => none
        | some (d, n) => tagChars? verbatim fuel (d :: done) (c.skip (3 * n))
      else if isTagChar verbatim x then tagChars? verbatim fuel (x :: done) (c.skip 1)
      else some (done, c)

/-- The part of a tag behind `lead`; the two may not both be empty. -/
def tagSuffix? (verbatim : Bool) (lead : List Char) (mayBeEmpty : Bool) (c : Cursor) :
    Option (String × Cursor) := do
  let (done, c) ← tagChars? verbatim c.fuel lead.reverse c
  if done.isEmpty && !mayBeEmpty then none
  else return (String.ofList done.reverse, c)

/-- The handle of a tag: an exclamation mark, a name and perhaps another
mark. -/
def tagHandle? (c : Cursor) : Option (List Char × Cursor) :=
  if c.isAt '!' then
    let (name, c) := (c.skip 1).span isWord
    if c.isAt '!' then some ('!' :: name ++ ['!'], c.skip 1) else some ('!' :: name, c)
  else none

/-- Whether a handle ends with a mark of its own. -/
def isFullHandle (handle : List Char) : Bool :=
  1 < handle.length && handle.getLast? == some '!'

/-- Read a tag. -/
def tag? (inFlow : Bool) (c : Cursor) : Option (Token × Cursor) := do
  let (token, c) ←
    if c.at? 1 = some '<' then do
      let (suffix, c) ← tagSuffix? true [] false (c.skip 2)
      if c.isAt '>' then some (Token.tag "" suffix, c.skip 1) else none
    else do
      let (handle, c) ← tagHandle? c
      if isFullHandle handle then
        let (suffix, c) ← tagSuffix? false [] false c
        some (.tag (String.ofList handle) suffix, c)
      else
        let (suffix, c) ← tagSuffix? false (handle.drop 1) true c
        some (if suffix = "" then .tag "" "!" else .tag "!" suffix, c)
  if isGap c.head? || (inFlow && c.isAt ',') then some (token, c) else none

/-- Read the name of an anchor or alias, from its indicator on. -/
def anchorName? (c : Cursor) : Option (String × Cursor) :=
  let (name, c) := (c.skip 1).span isWord
  let ends := isGap c.head? || c.head?.any ("?:,]\x7d%@`".toList.contains ·)
  if name.isEmpty || !ends then none else some (String.ofList name, c)

/-- Read a number of at most nine digits. -/
def versionNumber? (c : Cursor) : Option (Nat × Cursor) :=
  let (digits, c) := c.span Char.isDigit
  if digits.isEmpty || 9 < digits.length then none
  else some (digits.foldl (fun n d => 10 * n + (d.toNat - '0'.toNat)) 0, c)

/-- Read a directive, from its percent sign on. -/
def directive? (c : Cursor) : Option (Token × Cursor) := do
  let (name, c) := (c.skip 1).span isWord
  if name.isEmpty || !isGap c.head? then none
  let c := c.skipWhile isBlank
  let (token, c) ←
    match String.ofList name with
    | "YAML" => do
      let (major, c) ← versionNumber? c
      if !c.isAt '.' then none
      let (minor, c) ← versionNumber? (c.skip 1)
      some (Token.versionDirective major minor, c)
    | "TAG" => do
      let (handle, c) ← tagHandle? c
      if !isFullHandle handle && handle.length ≠ 1 then none
      if !c.head?.any isBlank then none
      let (stem, c) ← tagSuffix? true [] false (c.skipWhile isBlank)
      if !isGap c.head? then none
      some (Token.tagDirective (String.ofList handle) stem, c)
    | _ => none
  return (token, ← c.restOfLine?)

/-- Take over a scalar. -/
def takeScalar (s : Scanner) (read : Read) (isPlain : Bool) : Scanner :=
  { s.emit (.scalar (String.ofList read.text) isPlain) with cursor := read.cursor }

/-- An opening bracket. -/
def openFlow? (s : Scanner) (token : Token) : Option Scanner := do
  let s ← s.noteKey?
  return ({ s with flowKeys := none :: s.flowKeys }.allowKey true).take 1 token

/-- A closing bracket. -/
def closeFlow? (s : Scanner) (token : Token) : Option Scanner := do
  let s ← s.dropKey?
  return ({ s with flowKeys := s.flowKeys.drop 1 }.allowKey false).take 1 token

/-- An entry of a list, in a block. -/
def blockEntry? (s : Scanner) : Option Scanner := do
  if !s.inFlow && !s.keyAllowed then none
  let s ← (s.openBlock s.cursor.column s.count .blockSequenceStart).dropKey?
  return (s.allowKey true).take 1 .blockEntry

/-- The indicator of a key. -/
def key? (s : Scanner) : Option Scanner := do
  if !s.inFlow && !s.keyAllowed then none
  let s ← (s.openBlock s.cursor.column s.count .blockMappingStart).dropKey?
  return (s.allowKey !s.inFlow).take 1 .key

/-- The indicator of a value.  If a key may have begun before it, it has. -/
def value? (s : Scanner) : Option Scanner :=
  match s.keyStart? with
  | some key =>
    let s := (s.setKeyStart none).emitAt key.tokens [.key]
    let s := s.openBlock key.column key.tokens .blockMappingStart
    some ((s.allowKey false).take 1 .value)
  | none =>
    if !s.inFlow && !s.keyAllowed then none
    else
      let s := s.openBlock s.cursor.column s.count .blockMappingStart
      some ((s.allowKey !s.inFlow).take 1 .value)

/-- Whether a plain scalar may begin with `c` before `next`. -/
def beginsPlain (inFlow : Bool) (c : Char) (next : Option Char) : Bool :=
  !(isSpace c || "-?:,[]\x7b\x7d#&*!|>'\"%@`".toList.contains c) ||
    (c = '-' && !next.any isBlank) || (!inFlow && (c = '?' || c = ':') && !isGap next)

/-- Read the token that begins with `x`. -/
def token? (s : Scanner) (x : Char) : Option Scanner :=
  let c := s.cursor
  let next := c.at? 1
  let scalar (read : Option Read) (isPlain : Bool) : Option Scanner := do
    let s ← s.noteKey?
    let read ← read
    return (s.allowKey read.broken).takeScalar read isPlain
  if c.column = 0 && x = '%' then do
    let s ← s.leaveBlocks?
    let (token, c) ← directive? s.cursor
    return { s.emit token with cursor := c }
  else if c.isAtMark '-' then do return (← s.leaveBlocks?).take 3 .documentStart
  else if c.isAtMark '.' then do return (← s.leaveBlocks?).take 3 .documentEnd
  else if x = '[' then s.openFlow? .flowSequenceStart
  else if x = '{' then s.openFlow? .flowMappingStart
  else if x = ']' then s.closeFlow? .flowSequenceEnd
  else if x = '}' then s.closeFlow? .flowMappingEnd
  else if x = ',' then do return ((← s.dropKey?).allowKey true).take 1 .flowEntry
  else if x = '-' && isGap next then s.blockEntry?
  else if x = '?' && (s.inFlow || isGap next) then s.key?
  else if x = ':' && (s.inFlow || isGap next) then s.value?
  else if x = '*' then do
    let s ← s.noteKey?
    let (name, c) ← anchorName? c
    return { (s.allowKey false).emit (.alias name) with cursor := c }
  else if x = '&' then do
    let s ← s.noteKey?
    let (name, c) ← anchorName? c
    return { (s.allowKey false).emit (.anchor name) with cursor := c }
  else if x = '!' then do
    let s ← s.noteKey?
    let (token, c) ← tag? s.inFlow c
    return { (s.allowKey false).emit token with cursor := c }
  else if (x = '|' || x = '>') && !s.inFlow then do
    let s ← s.dropKey?
    let read ← block? (x = '|') s.indent c
    return (s.allowKey true).takeScalar read false
  else if x = '\'' then scalar (quoted? true c) false
  else if x = '"' then scalar (quoted? false c) false
  else if beginsPlain s.inFlow x next then
    scalar (plain? s.inFlow (s.indent + 1).toNat c) true
  else none

/-- Read tokens up to the end of the text. -/
def scanAll? : (fuel : Nat) → Scanner → Option Scanner
  | 0, _ => none
  | fuel + 1, s => do
    let s := s.toNext s.cursor.fuel
    let s ← s.expireKeys?
    let s := s.closeBlocks s.cursor.column
    match s.cursor.head? with
    | none => (s.closeBlocks (-1)).dropKey?
    | some x => scanAll? fuel (← s.token? x)

end Scanner

/-- The tokens of a text. -/
def tokens? (text : String) : Option (List Token) :=
  let characters := text.toList
  if characters.all isPrintable then
    (Scanner.scanAll? (characters.length + 1) (.start characters)).map (·.tokens.reverse)
  else none

end PageTimers.Yaml
