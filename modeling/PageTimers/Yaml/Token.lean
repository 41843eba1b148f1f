/-
# Tokens of a YAML text

The structure of a text without its layout: indentation has become blocks
with a start and an end, and every key is announced by a token of its own.
-/

namespace PageTimers.Yaml

inductive Token
  | versionDirective (major minor : Nat)
  /-- A shorthand for the beginning of tags. -/
  | tagDirective (handle stem : String)
  | documentStart
  | documentEnd
  | blockSequenceStart
  | blockMappingStart
  | blockEnd
  | flowSequenceStart
  | flowSequenceEnd
  | flowMappingStart
  | flowMappingEnd
  | blockEntry
  | flowEntry
  | key
  | value
  | alias (name : String)
  | anchor (name : String)
  | tag (handle suffix : String)
  | scalar (text : String) (isPlain : Bool)
deriving DecidableEq, Repr, Inhabited

end PageTimers.Yaml
