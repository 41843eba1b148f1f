/-
# Files

A disk says what a path leads to, seen from a directory.  A directory is
given by the names that lead to it, the innermost first, so that its parent
is the tail of the list.

`FileTree` is a disk given by its files; paths that leave the tree lead
nowhere.
-/

namespace PageTimers

/-- What a path leads to. -/
inductive DiskEntry
  | missing
  | directory
  /-- A file of text. -/
  | text (content : String)
  /-- A file of something else. -/
  | binary
deriving DecidableEq, Repr, Inhabited

namespace DiskEntry

def isFile : DiskEntry → Bool
  | text _ => true
  | binary => true
  | missing => false
  | directory => false

end DiskEntry

/-- The names that lead to a directory, the innermost first. -/
abbrev Directory := List String

abbrev Disk := Directory → String → DiskEntry

namespace Disk

def isAbsolute (path : String) : Bool := path.toList.head? = some '/'

/-- The file that a relative path leads to from a directory, or from the
nearest of its parents from which it leads to one. -/
def nearest? (disk : Disk) (path : String) : Directory → Option DiskEntry
  | [] => if (disk [] path).isFile then some (disk [] path) else none
  | name :: parent =>
    let entry := disk (name :: parent) path
    if entry.isFile then some entry
    else if isAbsolute path then none
    else nearest? disk path parent

end Disk

/-! ## Trees -/

/-- Files with their contents, and directories, by the names that lead to
them, the innermost first. -/
structure FileTree where
  files : List (Directory × String)
  directories : List Directory
deriving Repr

namespace FileTree

/-- The names in a path. -/
def names (path : String) : List String := path.splitOn "/"

/-- The directory that names lead to, when none of them leads upward. -/
def directoryOf (names : List String) : Directory :=
  (names.filter fun name => name ≠ "" && name ≠ ".").reverse

/-- The tree with the given files and one more directory. -/
def ofFiles (files : List (String × String)) (directory : String) : FileTree :=
  ⟨files.map fun (path, content) => (directoryOf (names path), content),
    [directoryOf (names directory)]⟩

/-- Whether a place is a directory: everything that something else lies in
is one. -/
def isDirectory (tree : FileTree) (place : Directory) : Bool :=
  place.isEmpty || tree.directories.any (place.isSuffixOf ·) ||
    tree.files.any fun (file, _) => place.isSuffixOf file && place ≠ file

/-- What is at a place. -/
def at? (tree : FileTree) (place : Directory) : DiskEntry :=
  if tree.isDirectory place then .directory
  else
    match tree.files.find? (·.1 == place) with
    | some (_, content) => .text content
    | none => .missing

/-- Follow names from a place; only directories can be passed through. -/
def follow (tree : FileTree) : Directory → List String → DiskEntry
  | place, [] => tree.at? place
  | place, name :: rest =>
    if !tree.isDirectory place then .missing
    else if name = "" || name = "." then follow tree place rest
    else if name = ".." then
      match place with
      | [] => .missing
      | _ :: parent => follow tree parent rest
    else follow tree (name :: place) rest

/-- The tree as a disk. -/
def disk (tree : FileTree) : Disk := fun directory path =>
  if path = "" || Disk.isAbsolute path then .missing
  else tree.follow directory (names path)

end FileTree

end PageTimers
