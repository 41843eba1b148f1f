/-
# What the nodes of a document mean

A plain scalar may stand for nothing, for a truth value or for a number;
which texts do is said by `plainValue`.  Looking at a node means following
aliases, and that is limited, since a short text can hold aliases for an
endless tree.
-/
import PageTimers.Decimal.Notation
import PageTimers.Yaml.Node

namespace PageTimers.Yaml

/-- The meaning of a scalar. -/
inductive ScalarValue
  | null
  | bool (b : Bool)
  | int (n : Int)
  | real (x : Binary64)
  | text (s : String)
deriving DecidableEq, Repr

/-! ## Plain scalars -/

def isNull (text : String) : Bool := ["null", "Null", "NULL", "~"].contains text

def bool? (text : String) : Option Bool :=
  if ["true", "True", "TRUE"].contains text then some true
  else if ["false", "False", "FALSE"].contains text then some false
  else none

/-- The value of digits in some base, at least one. -/
def digits? (base : Nat) (digits : List Char) : Option Nat :=
  if digits.isEmpty then none
  else digits.foldlM (fun n c => do
    let d ← Text.hexValue? c
    if d < base then some (base * n + d) else none) 0

/-- An unsigned number in one of the bases that have a mark. -/
def marked? (text : List Char) : Option Nat :=
  match text with
  | '0' :: 'x' :: digits => digits? 16 digits
  | '0' :: 'o' :: digits => digits? 8 digits
  | '0' :: 'b' :: digits => digits? 2 digits
  | _ => none

/-- Digits with a zero too many in front; that is a text. -/
def isPadded (text : List Char) : Bool :=
  let digits := match text with
    | '-' :: r => r
    | '+' :: r => r
    | r => r
  1 < digits.length && digits.head? == some '0' && digits.all Char.isDigit

/-- The range of integers: 128 bits, with or without a sign. -/
def inRange (n : Int) : Bool :=
  if 0 ≤ n then n.toNat < Nat.pow 2 128 else n.natAbs ≤ Nat.pow 2 127

/-- An integer, with a sign, and with the mark of its base. -/
def int? (text : List Char) : Option Int :=
  let magnitude (digits : List Char) : Option Nat :=
    match marked? digits with
    | some n => some n
    | none => if isPadded digits then none else digits? 10 digits
  let n : Option Int := match text with
    | '-' :: r => (magnitude r).map fun n => -(n : Int)
    | '+' :: r => (magnitude r).map fun n => (n : Int)
    | r => (magnitude r).map fun n => (n : Int)
  n.filter inRange

/-- A double, infinite or not a number by name only. -/
def real? (text : List Char) : Option Binary64 :=
  let magnitude := match text with
    | '+' :: r => r
    | r => r
  if text.head? = some '+' && (magnitude.head? = some '+' || magnitude.head? = some '-') then none
  else if [".inf", ".Inf", ".INF"].contains (String.ofList magnitude) then
    some (.infinity false)
  else if ["-.inf", "-.Inf", "-.INF"].contains (String.ofList text) then some (.infinity true)
  else if [".nan", ".NaN", ".NAN"].contains (String.ofList text) then some .nan
  else (Binary64.ofText? magnitude).filter (·.isFinite)

/-- The meaning of a plain scalar. -/
def plainValue (s : String) : ScalarValue :=
  if s = "" || isNull s then .null
  else
    match bool? s with
    | some b => .bool b
    | none =>
      let text := s.toList
      match int? text with
      | some n => .int n
      | none =>
        match (if isPadded text then none else real? text) with
        | some x => .real x
        | none => .text s

/-- The tags that say what a scalar is to be read as. -/
def taggedValue? (tag : String) (s : String) : Option ScalarValue :=
  match tag with
  | "tag:yaml.org,2002:bool" => (bool? s).map .bool
  | "tag:yaml.org,2002:int" => (int? s.toList).map .int
  | "tag:yaml.org,2002:float" => (real? s.toList).map .real
  | "tag:yaml.org,2002:null" => if isNull s then some .null else none
  | _ => some (.text s)

/-- Whether a tag is of this document only; no value has such a tag. -/
def isLocal (tag : Option String) : Bool :=
  match tag with
  | none => false
  | some tag => tag.toList.head? == some '!'

/-- The meaning of a scalar, if it has one. -/
def scalarValue? (tag : Option String) (s : String) (isPlain : Bool) : Option ScalarValue :=
  if isLocal tag then none
  else
    match tag with
    | some tag => taggedValue? tag s
    | none => some (if isPlain then plainValue s else .text s)

/-! ## Aliases -/

/-- Looking at a document: how many aliases may still be followed. -/
abbrev Look := ReaderT Document (StateT Nat Option)

namespace Look

/-- Follow an alias.  What has an anchor is no alias itself. -/
def resolve (node : Node) : Look Node := do
  match node with
  | .alias number =>
    match ← get with
    | 0 => failure
    | left + 1 =>
      set left
      match (← read).anchored.find? (·.1 == number) with
      | none => failure
      | some (_, node) => return node
  | node => return node

/-- The text of a scalar, whatever its tag. -/
def text (node : Node) : Look String := do
  match ← resolve node with
  | .scalar _ s _ => return s
  | _ => failure

end Look

/-- How deep collections may be nested. -/
def depthLimit : Nat := 128

/-- Look at the root of a document; `none` stands for an empty one. -/
def Document.look? {α : Type} (document : Document) (look : Option Node → Look α) : Option α :=
  ((look document.root).run document).run' (100 * document.size)

end PageTimers.Yaml
