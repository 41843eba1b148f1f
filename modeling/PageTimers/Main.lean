/-
# The program

Everything that acts on the world: the arguments, the environment, the clock
and the files are read, `Invocation.run` says what comes of them, and that
is written.
-/
import PageTimers.Application
import PageTimers.Logging.File

namespace PageTimers.Program

/-! ## The world as it is found -/

/-- The environment that the program was started in. -/
def environment : IO Environment := do
  let bytes ← IO.FS.readBinFile "/proc/self/environ"
  let entries := ((String.fromUTF8? bytes).getD "").splitOn "\x00"
  return entries.filterMap fun entry =>
    match entry.splitOn "=" with
    | name :: value :: more => some (name, "=".intercalate (value :: more))
    | _ => none

def currentDirectory : IO Directory := do
  return FileTree.directoryOf (FileTree.names (← IO.currentDir).toString)

/-- The number that a text begins with. -/
def leadingNumber (text : String) : Nat :=
  Decimal.naturalOf (text.toList.takeWhile Char.isDigit)

/-- The nanoseconds since the epoch: those until the machine was started, and
those that it has been running for. -/
def now : IO Nat := do
  let lines := (← IO.FS.readFile "/proc/stat").splitOn "\n"
  let started := match lines.find? fun line => line.startsWith "btime " with
    | some line => leadingNumber (line.drop 6).toString
    | none => 0
  let running := (← IO.FS.readFile "/proc/uptime").splitOn "."
  let hundredths := leadingNumber (running.getD 1 "")
  return (started + leadingNumber (running.getD 0 "")) * 1000000000 + hundredths * 10000000

/-- The digits of bytes, with hyphens after the fourth, sixth, eighth and
tenth. -/
def hyphenated (bytes : List UInt8) : String :=
  let digits (part : List UInt8) : String :=
    String.ofList (part.flatMap fun b => Text.hexDigits 2 b.toNat)
  "-".intercalate [digits (bytes.take 4), digits ((bytes.drop 4).take 2),
    digits ((bytes.drop 6).take 2), digits ((bytes.drop 8).take 2), digits (bytes.drop 10)]

/-- A random identifier, marked as such. -/
def randomId : IO String := do
  let bytes := (← IO.getRandomBytes 16).toList
  return hyphenated <| bytes.mapIdx fun i b =>
    if i = 6 then (b &&& 0x0f) ||| 0x40
    else if i = 8 then (b &&& 0x3f) ||| 0x80
    else b

def stampAt (time : UtcTime) : IO PageStamp := do
  return ⟨← randomId, time.text "Z", time.text "+00:00"⟩

/-! ## Files -/

/-- A directory and its parents, the innermost first. -/
def lineage : Directory → List Directory
  | [] => [[]]
  | name :: parent => (name :: parent) :: lineage parent

/-- What a command line may have to read. -/
def wanted (directory : Directory) (line : CommandLine) : List (Directory × String) :=
  let settings := (Surroundings.filesFor line.config).flatMap fun path =>
    (lineage directory).map fun place => (place, path)
  match line.command with
  | .runScenario file => (directory, file) :: settings
  | .checkScenario file => (directory, file) :: settings
  | .showConfig => settings

/-- A path from the root. -/
def fullPath (directory : Directory) (path : String) : String :=
  if Disk.isAbsolute path then path
  else "/" ++ "/".intercalate (directory.reverse ++ [path])

/-- What a path leads to.  Whatever is no file counts as missing. -/
def entryAt (directory : Directory) (path : String) : IO DiskEntry := do
  if path = "" then return .missing
  try
    let bytes ← IO.FS.readBinFile (fullPath directory path)
    match String.fromUTF8? bytes with
    | some content => return .text content
    | none => return .binary
  catch _ => return .missing

/-- The part of the disk that a command line may have to read. -/
def snapshot (places : List (Directory × String)) : IO Disk := do
  let entries ← places.mapM fun (directory, path) => do
    return ((directory, path), ← entryAt directory path)
  return fun directory path =>
    match entries.find? (·.1 == (directory, path)) with
    | some (_, entry) => entry
    | none => .missing

/-! ## The response -/

/-- Write the log: to its file, if there is to be one, and to the console. -/
def writeLog (time : UtcTime) (log : Log) : IO Unit := do
  match log.settings.logDir with
  | none => pure ()
  | some directory =>
    IO.FS.createDirAll directory
    let path := directory ++ "/" ++ log.settings.rotation.fileName time
    let file ← IO.FS.Handle.mk path .append
    for event in log.events do file.putStrLn (event.documentLine time)
  for event in log.events do
    match log.settings.format with
    | .json => IO.eprintln (event.documentLine time)
    | .pretty => IO.eprintln (event.plainLine time)

def respond (time : UtcTime) (response : Response) : IO UInt32 := do
  match response.log with
  | none => pure ()
  | some log => writeLog time log
  IO.print response.output
  IO.eprint response.complaint
  return UInt32.ofNat response.exit

def start (arguments : List String) : IO UInt32 := do
  let environment ← environment
  let directory ← currentDirectory
  let time := UtcTime.ofNanoseconds (← now)
  let places := match CommandLine.parse (environment.get? Invocation.configVariable) arguments with
    | .ok line => wanted directory line
    | .error _ => []
  let surroundings : Surroundings := ⟨← snapshot places, directory, environment⟩
  respond time (Invocation.run ⟨arguments, surroundings, ← stampAt time⟩)

end PageTimers.Program

def main (arguments : List String) : IO UInt32 := PageTimers.Program.start arguments
