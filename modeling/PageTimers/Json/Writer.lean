/-
# JSON as text

Two layouts of the same document: `compact`, without any blank, and
`pretty`, one item a line.  Both escape what a document must escape
(quotes, backslashes and control characters) and nothing else.
-/
import PageTimers.Json.Basic
import PageTimers.Text.Hex

namespace PageTimers

namespace Json

/-- One character of a quoted string. -/
def escapeChar (c : Char) : List Char :=
  match c with
  | '"' => ['\\', '"']
  | '\\' => ['\\', '\\']
  | '\n' => ['\\', 'n']
  | '\r' => ['\\', 'r']
  | '\t' => ['\\', 't']
  | '\x08' => ['\\', 'b']
  | '\x0c' => ['\\', 'f']
  | c =>
    if c.toNat < 32 then
      '\\' :: 'u' :: Text.hexDigits 4 c.toNat
    else [c]

/-- A string in quotes. -/
def quoted (s : String) : String :=
  "\"" ++ String.ofList (s.toList.flatMap escapeChar) ++ "\""

end Json

/-- The text of a number in a document. -/
def JsonNumber.render : JsonNumber → String
  | .natural n => toString n.toNat
  | .negative n => toString n.toInt
  | .real x => x.render .documents

namespace Json

mutual

/-- Write the document behind `out`, without any blank. -/
def compactOnto (out : String) : Json → String
  | .null => out ++ "null"
  | .bool b => out ++ if b then "true" else "false"
  | .number n => out ++ n.render
  | .string s => out ++ quoted s
  | .array items => compactItems (out ++ "[") "" items ++ "]"
  | .object fields => compactFields (out ++ "\x7b") "" fields ++ "\x7d"

/-- Write items, the first after `separator` and the others after commas. -/
def compactItems (out separator : String) : List Json → String
  | [] => out
  | item :: rest => compactItems (compactOnto (out ++ separator) item) "," rest

/-- Write fields, the first after `separator` and the others after commas. -/
def compactFields (out separator : String) : List (String × Json) → String
  | [] => out
  | (name, value) :: rest =>
    compactFields (compactOnto (out ++ separator ++ quoted name ++ ":") value) "," rest

end

/-- The document without any blank. -/
def compact (document : Json) : String := compactOnto "" document

/-- A line break followed by the margin of the given depth. -/
def newLine (depth : Nat) : String :=
  "\n" ++ String.ofList (List.replicate (2 * depth) ' ')

mutual

/-- Write the document behind `out`, one item a line, nested items two columns
further in. -/
def prettyOnto (depth : Nat) (out : String) : Json → String
  | .null => out ++ "null"
  | .bool b => out ++ if b then "true" else "false"
  | .number n => out ++ n.render
  | .string s => out ++ quoted s
  | .array [] => out ++ "[]"
  | .array items => prettyItems (depth + 1) (out ++ "[") "" items ++ newLine depth ++ "]"
  | .object [] => out ++ "\x7b\x7d"
  | .object fields =>
    prettyFields (depth + 1) (out ++ "\x7b") "" fields ++ newLine depth ++ "\x7d"

/-- Write items on lines of their own. -/
def prettyItems (depth : Nat) (out separator : String) : List Json → String
  | [] => out
  | item :: rest =>
    prettyItems depth (prettyOnto depth (out ++ separator ++ newLine depth) item) "," rest

/-- Write fields on lines of their own. -/
def prettyFields (depth : Nat) (out separator : String) : List (String × Json) → String
  | [] => out
  | (name, value) :: rest =>
    let label := separator ++ newLine depth ++ quoted name ++ ": "
    prettyFields depth (prettyOnto depth (out ++ label) value) "," rest

end

/-- The document laid out over several lines. -/
def pretty (document : Json) : String := prettyOnto 0 "" document

end Json

end PageTimers
