/-
# From tokens to nodes

A document is a tree of nodes.  An alias stays what it is until someone
looks at it: it holds the number of its anchor, and what an anchor stands
for is only settled when the whole document has been read.  Numbers count
the distinct names of anchors so far, so a name that is given again may
share the number of a later one; the node that began last has it.

Only the first document of a text is of interest, and there may be no other.
-/
import PageTimers.Yaml.Scan

namespace PageTimers.Yaml

inductive Node
  | scalar (tag : Option String) (text : String) (isPlain : Bool)
  | sequence (tag : Option String) (items : List Node)
  | mapping (tag : Option String) (entries : List (Node × Node))
  /-- The node with the anchor of this number. -/
  | alias (number : Nat)
deriving Repr, Inhabited

namespace Node

/-- What stands where nothing is written. -/
def empty : Node := scalar none "" true

end Node

structure Document where
  /-- `none` where the text is empty. -/
  root : Option Node
  /-- The nodes with anchors, by number. -/
  anchored : List (Nat × Node)
  /-- How many scalars, aliases, and ends of collections there are. -/
  size : Nat
deriving Repr

/-- What is known while nodes are built. -/
structure Builder where
  tokens : List Token
  /-- The shorthands of tags. -/
  handles : List (String × String)
  /-- The numbers of anchors by name, the latest first. -/
  numbers : List (String × Nat)
  /-- How many anchors there were. -/
  anchors : Nat
  /-- Which anchor has a number, the latest first. -/
  owners : List (Nat × Nat)
  anchored : List (Nat × Node)
  size : Nat

abbrev Build := StateT Builder Option

namespace Build

def next? : Build (Option Token) := return (← get).tokens.head?

def skip : Build Unit := modify fun b => { b with tokens := b.tokens.drop 1 }

/-- Count events. -/
def count (n : Nat) : Build Unit := modify fun b => { b with size := b.size + n }

/-- Take the next token if it is the given one. -/
def accept (token : Token) : Build Bool := do
  if (← next?) = some token then skip; return true else return false

/-- The next token has to be the given one. -/
def expect (token : Token) : Build Unit := do
  unless ← accept token do failure

/-- Whether the next token is one of the given ones. -/
def isBefore (tokens : List Token) : Build Bool := do
  match ← next? with
  | none => return true
  | some token => return tokens.contains token

/-- The name of a tag, its shorthand spelled out. -/
def resolveTag (handle suffix : String) : Build String := do
  if handle = "" then return suffix
  else
    match (← get).handles.find? (·.1 == handle) with
    | none => failure
    | some (_, stem) => return stem ++ suffix

def acceptAnchor : Build (Option String) := do
  match ← next? with
  | some (.anchor name) => skip; return some name
  | _ => return none

def acceptTag : Build (Option String) := do
  match ← next? with
  | some (.tag handle suffix) => skip; return some (← resolveTag handle suffix)
  | _ => return none

/-- The anchor and the tag of a node, in either order. -/
def properties : Build (Option String × Option String) := do
  match ← acceptAnchor with
  | some name => return (some name, ← acceptTag)
  | none =>
    let tag ← acceptTag
    return (← if tag.isSome then acceptAnchor else pure none, tag)

/-- A node with an anchor begins: the number of the anchor, and which anchor
it is. -/
def claim (name : String) : Build (Nat × Nat) := do
  let b ← get
  let number := b.numbers.length
  set { b with
    numbers := (name, number) :: b.numbers.filter (·.1 != name)
    anchors := b.anchors + 1
    owners := (number, b.anchors) :: b.owners.filter (·.1 != number) }
  return (number, b.anchors)

/-- A node with an anchor is complete. -/
def settle (claimed : Option (Nat × Nat)) (node : Node) : Build Node := do
  match claimed with
  | none => return node
  | some (number, anchor) =>
    modify fun b =>
      if b.owners.contains (number, anchor) then
        { b with anchored := (number, node) :: b.anchored.filter (·.1 != number) }
      else b
    return node

/-- The node that is written as nothing. -/
def empty : Build Node := do
  count 1
  return .empty

mutual

/-- A node.  In a block, its own block may begin here; where lists need not
be indented, it may be such a list. -/
def node (inBlock unindented : Bool) : (fuel : Nat) → Build Node
  | 0 => failure
  | fuel + 1 => do
    match ← next? with
    | some (.alias name) =>
      skip
      count 1
      match (← get).numbers.find? (·.1 == name) with
      | none => failure
      | some (_, number) => return .alias number
    | _ =>
      let (anchor, tag) ← properties
      let claimed ← match anchor with
        | none => pure none
        | some name => do pure (some (← claim name))
      let node ← content inBlock unindented (anchor.isSome || tag.isSome) tag fuel
      settle claimed node

/-- What follows the anchor and the tag of a node, if it has any. -/
def content (inBlock unindented hasProperties : Bool) (tag : Option String) :
    (fuel : Nat) → Build Node
  | 0 => failure
  | fuel + 1 => do
    match ← next?, unindented, inBlock with
    | some .blockEntry, true, _ =>
      count 2
      return .sequence tag (← unindentedItems fuel)
    | some (.scalar text isPlain), _, _ =>
      skip
      count 1
      return .scalar (if tag = some "!" then none else tag) text isPlain
    | some .flowSequenceStart, _, _ =>
      skip
      count 2
      return .sequence tag (← flowItems true fuel)
    | some .flowMappingStart, _, _ =>
      skip
      count 2
      return .mapping tag (← flowEntries true fuel)
    | some .blockSequenceStart, _, true =>
      skip
      count 2
      return .sequence tag (← blockItems fuel)
    | some .blockMappingStart, _, true =>
      skip
      count 2
      return .mapping tag (← blockEntries fuel)
    | _, _, _ =>
      if hasProperties then
        count 1
        return .scalar (if tag = some "!" then none else tag) "" true
      else failure

/-- A node, unless one of the given tokens comes first. -/
def nodeBefore (stops : List Token) (inBlock unindented : Bool) : (fuel : Nat) → Build Node
  | 0 => failure
  | fuel + 1 => do
    if ← isBefore stops then empty else node inBlock unindented fuel

/-- The items of a list in a block. -/
def blockItems : (fuel : Nat) → Build (List Node)
  | 0 => failure
  | fuel + 1 => do
    if ← accept .blockEntry then
      let item ← nodeBefore [.blockEntry, .blockEnd] true false fuel
      return item :: (← blockItems fuel)
    else
      expect .blockEnd
      return []

/-- The items of a list that is not indented. -/
def unindentedItems : (fuel : Nat) → Build (List Node)
  | 0 => failure
  | fuel + 1 => do
    if ← accept .blockEntry then
      let item ← nodeBefore [.blockEntry, .key, .value, .blockEnd] true false fuel
      return item :: (← unindentedItems fuel)
    else return []

/-- The entries of a mapping in a block. -/
def blockEntries : (fuel : Nat) → Build (List (Node × Node))
  | 0 => failure
  | fuel + 1 => do
    if ← accept .key then
      let key ← nodeBefore [.key, .value, .blockEnd] true true fuel
      let value ←
        if ← accept .value then nodeBefore [.key, .value, .blockEnd] true true fuel
        else empty
      return (key, value) :: (← blockEntries fuel)
    else
      expect .blockEnd
      return []

/-- The items of a list in brackets. -/
def flowItems (isFirst : Bool) : (fuel : Nat) → Build (List Node)
  | 0 => failure
  | fuel + 1 => do
    if ← accept .flowSequenceEnd then return []
    unless isFirst do expect .flowEntry
    if ← accept .key then
      count 2
      let entry ← flowPair fuel
      return .mapping none [entry] :: (← flowItems false fuel)
    else if ← accept .flowSequenceEnd then return []
    else
      let item ← node false false fuel
      return item :: (← flowItems false fuel)

/-- A key and its value among the items of a list in brackets.  A key that
is left out takes the token in its place along. -/
def flowPair : (fuel : Nat) → Build (Node × Node)
  | 0 => failure
  | fuel + 1 => do
    let key ←
      if ← isBefore [.value, .flowEntry, .flowSequenceEnd] then do skip; empty
      else node false false fuel
    let value ←
      if ← accept .value then nodeBefore [.flowEntry, .flowSequenceEnd] false false fuel
      else empty
    return (key, value)

/-- The entries of a mapping in braces. -/
def flowEntries (isFirst : Bool) : (fuel : Nat) → Build (List (Node × Node))
  | 0 => failure
  | fuel + 1 => do
    if ← accept .flowMappingEnd then return []
    unless isFirst do expect .flowEntry
    if ← accept .key then
      let key ← nodeBefore [.value, .flowEntry, .flowMappingEnd] false false fuel
      let value ←
        if ← accept .value then nodeBefore [.flowEntry, .flowMappingEnd] false false fuel
        else empty
      return (key, value) :: (← flowEntries false fuel)
    else if ← accept .flowMappingEnd then return []
    else
      let key ← node false false fuel
      let value ← empty
      return (key, value) :: (← flowEntries false fuel)

end

/-- The directives before a document.  Shorthands may be given once each;
two are there already, and may be changed. -/
def directives : (fuel : Nat) → (versioned : Bool) → Build Unit
  | 0, _ => failure
  | fuel + 1, versioned => do
    match ← next? with
    | some (.versionDirective major minor) =>
      if versioned || major ≠ 1 || (minor ≠ 1 && minor ≠ 2) then failure
      skip
      directives fuel true
    | some (.tagDirective handle stem) =>
      if (← get).handles.any (·.1 == handle) then failure
      skip
      modify fun b => { b with handles := (handle, stem) :: b.handles }
      directives fuel versioned
    | _ => modify fun b =>
        { b with handles := b.handles ++ [("!", "!"), ("!!", "tag:yaml.org,2002:")] }

/-- Whether a document needs the mark at its start. -/
def isMarked : Option Token → Bool
  | some (.versionDirective ..) => true
  | some (.tagDirective ..) => true
  | some .documentStart => true
  | _ => false

/-- The root of the document, if there is one. -/
def root : Build (Option Node) := do
  let fuel := 4 * (← get).tokens.length + 8
  match ← next? with
  | none => return none
  | token =>
    directives fuel false
    if isMarked token then
      expect .documentStart
      let next ← next?
      if next.isNone || next = some .documentEnd || isMarked next then
        return some (← empty)
    return some (← node true false fuel)

/-- After the document there may be marks for its end, and nothing else. -/
def finish : Build Unit := do
  unless (← get).tokens.all (· = .documentEnd) do failure

end Build

/-- The document of a text. -/
def document? (text : String) : Option Document := do
  let tokens ← tokens? text
  let build : Build (Option Node) := do
    let root ← Build.root
    Build.finish
    return root
  let (root, b) ← build.run ⟨tokens, [], [], 0, [], [], 0⟩
  return ⟨root, b.anchored, b.size⟩

end PageTimers.Yaml
