/-
# Writing texts in YAML

A text is written plain where that reads back as the same text, in single
quotes where it would read as something else, and in double quotes where it
holds characters that have to be escaped.  A text of several lines is
written line by line.
-/
import PageTimers.Yaml.Value

namespace PageTimers.Yaml

/-! ## What a text holds -/

/-- Whether a character needs no escape between quotes. -/
def standsForItself (c : Char) : Bool :=
  let n := c.toNat
  n = 0x0a || (0x20 ≤ n && n ≤ 0x7e) || (0xa0 ≤ n && n ≤ 0xfffd && n ≠ 0xfeff)

/-- Whether some character and the one after it are such and such. -/
def hasPair (first second : Char → Bool) : List Char → Bool
  | a :: b :: rest => first a && second b || hasPair first second (b :: rest)
  | _ => false

/-- Whether the start of a text has a meaning of its own. -/
def startsMarked (text : List Char) : Bool :=
  "---".toList.isPrefixOf text || "...".toList.isPrefixOf text ||
    match text with
    | [] => false
    | c :: rest =>
      "#,[]\x7b\x7d&*!|>'\"%@`".toList.contains c ||
        "?:-".toList.contains c && isGap rest.head?

/-- Whether a mark somewhere behind the start has a meaning of its own: a
colon at the end of a word, or a comment. -/
def holdsMark : List Char → Bool
  | a :: b :: rest =>
    b = ':' && isGap rest.head? || b = '#' && isSpace a ||
      holdsMark (b :: rest)
  | _ => false

/-- Whether a text has to be escaped: unprintable characters, or blanks that
a line break would swallow. -/
def needsEscapes (text : List Char) : Bool :=
  !text.all standsForItself || hasPair (· = ' ') isBreak text

/-- Whether a text can stand without quotes. -/
def fitsPlain (text : List Char) : Bool :=
  let isOuter (c : Option Char) : Bool := c.any fun c => c = ' ' || isBreak c
  !(isOuter text.head? || isOuter text.getLast? || text.any isBreak ||
    needsEscapes text || startsMarked text || holdsMark text)

/-- Whether a text can stand in single quotes. -/
def fitsSingle (text : List Char) : Bool :=
  !(needsEscapes text || hasPair isBreak (· = ' ') text)

/-- Whether a text can be written line by line. -/
def fitsLines (text : List Char) : Bool :=
  !(text.isEmpty || needsEscapes text || text.getLast? = some ' ')

/-- Whether a text without quotes would read as something else. -/
def readsOtherwise (text : String) : Bool :=
  isPadded text.toList ||
    match plainValue text with
    | .text _ => false
    | _ => true

/-! ## The ways of writing -/

/-- An escape by code point, with as many digits as given. -/
def codePointEscape (mark : Char) (count : Nat) (c : Char) : List Char :=
  '\\' :: mark :: (Text.hexDigits count c.toNat).map Char.toUpper

/-- A character in double quotes. -/
def escaped (c : Char) : List Char :=
  match c with
  | '\x00' => ['\\', '0']
  | '\x07' => ['\\', 'a']
  | '\x08' => ['\\', 'b']
  | '\t' => ['\\', 't']
  | '\n' => ['\\', 'n']
  | '\x0b' => ['\\', 'v']
  | '\x0c' => ['\\', 'f']
  | '\r' => ['\\', 'r']
  | '\x1b' => ['\\', 'e']
  | '"' => ['\\', '"']
  | '\\' => ['\\', '\\']
  | '\x85' => ['\\', 'N']
  | '\u2028' => ['\\', 'L']
  | '\u2029' => ['\\', 'P']
  | c =>
    if standsForItself c then [c]
    else if c.toNat ≤ 0xff then codePointEscape 'x' 2 c
    else if c.toNat ≤ 0xffff then codePointEscape 'u' 4 c
    else codePointEscape 'U' 8 c

def inDouble (text : List Char) : List Char := '"' :: text.flatMap escaped ++ ['"']

def margin (indent : Nat) : List Char := List.replicate indent ' '

/-- The text between single quotes.  What follows a line break is indented;
`broken` says that one has just been written. -/
def singleBody (indent : Nat) : (broken : Bool) → List Char → List Char
  | broken, [] => if broken then margin indent else []
  | broken, c :: rest =>
    if isBreak c then c :: singleBody indent true rest
    else
      (if broken then margin indent else []) ++ (if c = '\'' then ['\'', '\''] else [c]) ++
        singleBody indent false rest

def inSingle (indent : Nat) (text : List Char) : List Char :=
  '\'' :: singleBody indent false text ++ ['\'']

/-- How the last line break of a text is to be taken: none, one, or more. -/
def endMark (text : List Char) : List Char :=
  match text.reverse with
  | [] => ['-']
  | [c] => if isBreak c then ['+'] else ['-']
  | c :: d :: _ => if !isBreak c then ['-'] else if isBreak d then ['+'] else []

/-- The lines of a text, each indented unless it is empty; `fresh` says that
a line begins here. -/
def lineBody (indent : Nat) : (fresh : Bool) → List Char → List Char
  | _, [] => []
  | fresh, c :: rest =>
    if isBreak c then c :: lineBody indent true rest
    else (if fresh then margin indent else []) ++ c :: lineBody indent false rest

/-- A text line by line.  If it begins with a blank, the indentation has to
be said. -/
def inLines (indent : Nat) (text : List Char) : List Char :=
  let hint := if text.head?.any fun c => c = ' ' || isBreak c then ['2'] else []
  '|' :: hint ++ endMark text ++ '\n' :: lineBody indent true text

/-- The text of a scalar, as the value of a field.  Lines after the first
are indented by `indent`. -/
def scalarText (indent : Nat) (s : String) : String :=
  let text := s.toList
  String.ofList <|
    if text.contains '\n' then
      if fitsLines text then inLines indent text else inDouble text
    else if !readsOtherwise s && fitsPlain text then text
    else if fitsSingle text then inSingle indent text
    else inDouble text

/-- A line break, unless a text ends with one. -/
def lineEnd (text : String) : String :=
  if text.toList.getLast? = some '\n' then "" else "\n"

/-- A field with a text for a value, indented by `indent`. -/
def fieldText (indent : Nat) (name value : String) : String :=
  String.ofList (margin indent) ++ name ++ ": " ++ value ++ lineEnd value

end PageTimers.Yaml
