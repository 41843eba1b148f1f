/-
# Where settings come from

From the lowest layer to the highest: the defaults, the project's files, and
the environment.  One file may be named in the place of the project's.  A
relative path is looked for in the current directory and then in each of its
parents; a file that is not there gives nothing.
-/
import PageTimers.Disk
import PageTimers.Layers.Decode
import PageTimers.Layers.Environment
import PageTimers.Layers.File

namespace PageTimers

/-- Why settings cannot be had. -/
inductive LoadError
  /-- Files that hold no layer, the highest first. -/
  | unreadable (files : List String)
  | misfit (misfit : Misfit)
  | invalid (error : SettingsError)
deriving Repr

namespace LoadError

/-- What an error says first, when the given file was asked for. -/
def message (file : Option String) : LoadError → String
  | invalid error => error.message
  | _ =>
    match file with
    | some path => s!"Failed to load config from {path}"
    | none => "Failed to extract configuration from figment"

/-- What an error says after that. -/
def causes : LoadError → List String
  | unreadable files => files.map fun path => s!"no settings in {path}"
  | misfit m => [m.message]
  | invalid _ => []

end LoadError

/-- What settings are loaded from. -/
structure Surroundings where
  disk : Disk
  directory : Directory
  environment : Environment

namespace Surroundings

/-- The layer of a file; there is none where a file holds something else. -/
def fileLayer? (s : Surroundings) (path : String) : Option Layer :=
  match s.disk.nearest? path s.directory with
  | none => some []
  | some (.text content) => Layer.ofYaml? content
  | some _ => none

/-- The files of a project, the lowest first. -/
def projectFiles : List String := [".quiesce/config.yaml", ".quiesce/local.yaml"]

/-- The layers of files, the lowest first.  Every file that holds none is
reported. -/
def fileLayers (s : Surroundings) (paths : List String) : Except LoadError (List Layer) :=
  match paths.filter fun path => (s.fileLayer? path).isNone with
  | [] => .ok (paths.filterMap s.fileLayer?)
  | unreadable => .error (.unreadable unreadable.reverse)

/-- The files in question, the lowest first: the given one, or the
project's. -/
def filesFor : (file : Option String) → List String
  | some path => [path]
  | none => projectFiles

/-- Everything that is set on top of the defaults. -/
def layer? (s : Surroundings) (file : Option String) : Except LoadError Layer := do
  return Layer.stack ((← s.fileLayers (filesFor file)) ++ [s.environment.layer])

/-- The settings, from the given file or from the project's. -/
def load (s : Surroundings) (file : Option String) : Except LoadError Settings := do
  match (← s.layer? file).settings? with
  | .error misfit => .error (.misfit misfit)
  | .ok settings =>
    match settings.validate with
    | .error e => .error (.invalid e)
    | .ok () => return settings

end Surroundings

end PageTimers
