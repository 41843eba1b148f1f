/-
# The globals of a page

Named values, as the scripts of a page publish them.  Everything is read
through `get?` and, for values inside values, `lookup?`.
-/
import PageTimers.Json.Basic

namespace PageTimers

structure Globals where
  values : Fields Json
deriving Repr

namespace Globals

def empty : Globals := ⟨[]⟩

/-- Set a global, whether it was there or not. -/
def set (name : String) (value : Json) (globals : Globals) : Globals :=
  ⟨globals.values.insert name value⟩

def remove (name : String) (globals : Globals) : Globals := ⟨globals.values.erase name⟩

def get? (name : String) (globals : Globals) : Option Json := globals.values.get? name

/-- The value at the end of a path that begins with the name of a global. -/
def lookup? (path : List String) (globals : Globals) : Option Json :=
  match path with
  | [] => none
  | name :: fields => (globals.get? name).bind (Json.descend? fields)

end Globals

end PageTimers
