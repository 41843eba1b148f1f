/-
# The layer of a file

A file of settings is a YAML mapping.  Names are taken from any scalar;
what a value is depends on how it is written.  An empty file gives an empty
layer.
-/
import PageTimers.Layers.Setting
import PageTimers.Yaml.Value

namespace PageTimers

namespace Yaml

/-- A scalar as a setting.  A minus sign makes a number a signed one, even
before a zero. -/
def ScalarValue.setting (written : String) : ScalarValue → Setting
  | null => .empty
  | bool b => .bool b
  | int n =>
    if n < 0 || written.toList.head? = some '-' then .signed n else .unsigned n.toNat
  | real x => .real x
  | text s => .text s

namespace Look

/-- A scalar as a setting, if it has a meaning. -/
def scalarSetting (tag : Option String) (s : String) (isPlain : Bool) : Look Setting :=
  match scalarValue? tag s isPlain with
  | none => failure
  | some value => return value.setting s

/-- A node as a setting; collections may be nested `depth` deep. -/
def setting : (depth : Nat) → Node → Look Setting
  | 0, node => do
    match ← resolve node with
    | .scalar tag s isPlain => scalarSetting tag s isPlain
    | _ => failure
  | depth + 1, node => do
    match ← resolve node with
    | .scalar tag s isPlain => scalarSetting tag s isPlain
    | .sequence tag items =>
      if isLocal tag then failure
      return .list (← items.mapM (setting depth))
    | .mapping tag entries =>
      if isLocal tag then failure
      return .group (Fields.ofList (← entries.mapM fun (key, value) => do
        return (← text key, ← setting depth value)))
    | .alias _ => failure

/-- The root of a document as a layer. -/
def layer (root : Option Node) : Look Layer := do
  match root with
  | none => return []
  | some root =>
    match ← resolve root with
    | .mapping _ entries =>
      return Fields.ofList (← entries.mapM fun (key, value) => do
        return (← text key, ← setting (depthLimit - 1) value))
    | .scalar _ "" true => return []
    | _ => failure

end Look

end Yaml

/-- The layer in a text, if the text is one. -/
def Layer.ofYaml? (content : String) : Option Layer :=
  (Yaml.document? content).bind fun document => document.look? Yaml.Look.layer

end PageTimers
