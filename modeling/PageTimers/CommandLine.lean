/-
# The command line

Commands form a tree: `scenario run`, `scenario check` and `config show`.
Two options may stand anywhere, before or after the names of commands, once
at each level; of the same option at two levels the deeper one counts.  A
file with settings may also be named by a variable, which counts less than
any option.

The arguments are read one by one, and the first thing that is wrong ends
the reading.  An option that waits for its value takes the next argument,
unless that looks like an option itself.
-/

namespace PageTimers

/-- What is to be done. -/
inductive Command
  | runScenario (file : String)
  | checkScenario (file : String)
  | showConfig
deriving DecidableEq, Repr

structure CommandLine where
  /-- Whether the answer is to be a document. -/
  json : Bool
  /-- The file to take settings from. -/
  config : Option String
  command : Command
deriving DecidableEq, Repr

/-- Why arguments do not make a command line. -/
inductive UsageError
  | missingFile
  | unknownCommand
  /-- Options, but no command. -/
  | missingCommand
  /-- Nothing at all where a command is due. -/
  | nothingGiven
  | unknownArgument
  | repeatedOption
  /-- An option or an argument with an empty value, or without one. -/
  | emptyValue
  /-- A value for an option that takes none. -/
  | needlessValue
  | helpAsked
  | versionAsked
deriving DecidableEq, Repr

namespace CommandLine

/-- A place in the tree of commands. -/
inductive Level
  | top
  | scenario
  | config
  | run
  | check
  | display
deriving DecidableEq, Repr

namespace Level

/-- The commands under a level. -/
def commands : Level → List (String × Level)
  | top => [("scenario", scenario), ("config", config)]
  | scenario => [("run", run), ("check", check)]
  | config => [("show", display)]
  | run => []
  | check => []
  | display => []

def hasCommands (level : Level) : Bool := !level.commands.isEmpty

def command? (level : Level) (name : String) : Option Level :=
  (level.commands.find? (·.1 == name)).map (·.2)

/-- Whether the name of a file is due. -/
def takesFile : Level → Bool
  | run => true
  | check => true
  | _ => false

def hasVersion : Level → Bool
  | top => true
  | _ => false

end Level

/-! ## What has been read -/

/-- What still has to be taken over. -/
inductive Pending
  /-- The option for a file with settings; `none` while it waits. -/
  | config (value : Option String)
  | file (value : String)
deriving DecidableEq, Repr

/-- What has been read at one level. -/
structure Given where
  json : Bool := false
  config : Option String := none
  file : Option String := none
  pending : Option Pending := none
  /-- Behind `--`, where there are no more options. -/
  literal : Bool := false
deriving Repr

/-- Every step is a change of what has been read. -/
abbrev Reading := StateT Given (Except UsageError)

namespace Reading

def refuse {α : Type} (error : UsageError) : Reading α := throw error

/-- Take over the file with settings. -/
def setConfig (value : Option String) : Reading Unit := do
  match value with
  | none => refuse .emptyValue
  | some value =>
    if (← get).config.isSome then refuse .repeatedOption
    if value = "" then refuse .emptyValue
    modify fun g => { g with config := some value }

/-- Take over what is pending. -/
def settle : Reading Unit := do
  let pending := (← get).pending
  modify fun g => { g with pending := none }
  match pending with
  | none => return ()
  | some (.config value) => setConfig value
  | some (.file value) =>
    if value = "" then refuse .emptyValue
    modify fun g => { g with file := some value }

def setJson : Reading Unit := do
  settle
  if (← get).json then refuse .repeatedOption
  modify fun g => { g with json := true }

/-- The option for a file with settings, and its value if that is attached. -/
def configOption (attached : Option String) : Reading Unit := do
  settle
  match attached with
  | some value => setConfig (some value)
  | none => modify fun g => { g with pending := some (.config none) }

/-- Answer a question instead of going on. -/
def answer (error : UsageError) : Reading Unit := do
  settle
  refuse error

/-- An option by its long name. -/
def long (level : Level) (name : String) (attached : Option String) : Reading Unit :=
  let plain (act : Reading Unit) : Reading Unit :=
    if attached.isSome then refuse .needlessValue else act
  match name with
  | "json" => plain setJson
  | "config" => configOption attached
  | "help" => plain (answer .helpAsked)
  | "version" =>
    if level.hasVersion then plain (answer .versionAsked) else refuse .unknownArgument
  | _ => refuse .unknownArgument

/-- Options by their letters.  What follows the letter of an option with a
value is the value. -/
def short (level : Level) : List Char → Reading Unit
  | [] => return ()
  | 'j' :: rest => do
    setJson
    short level rest
  | 'c' :: '=' :: rest => configOption (some (String.ofList rest))
  | 'c' :: [] => configOption none
  | 'c' :: rest => configOption (some (String.ofList rest))
  | 'h' :: _ => answer .helpAsked
  | 'V' :: _ => if level.hasVersion then answer .versionAsked else refuse .unknownArgument
  | _ :: _ => refuse .unknownArgument

/-- Split a text at the first equals sign. -/
def splitValue (text : List Char) : String × Option String :=
  let name := String.ofList (text.takeWhile (· ≠ '='))
  match text.dropWhile (· ≠ '=') with
  | [] => (name, none)
  | _ :: value => (name, some (String.ofList value))

/-- An argument that is no option and no command. -/
def positional (level : Level) (arg : String) : Reading Unit := do
  let g ← get
  if level.takesFile && g.file.isNone && !(g.pending matches some (.file _)) then
    settle
    modify fun g => { g with pending := some (.file arg) }
  else if !level.hasCommands then refuse .unknownArgument
  else if g.literal && ((level.command? arg).isSome || arg = "help") then
    refuse .unknownArgument
  else refuse .unknownCommand

/-- An argument that is no command. -/
def argument (level : Level) (arg : String) : Reading Unit := do
  if (← get).literal then positional level arg
  else
    match arg.toList with
    | ['-', '-'] => modify fun g => { g with literal := true }
    | '-' :: '-' :: text =>
      let (name, attached) := splitValue text
      long level name attached
    | '-' :: c :: text => short level (c :: text)
    | _ =>
      match (← get).pending with
      | some (.config none) => modify fun g => { g with pending := some (.config (some arg)) }
      | _ => positional level arg

/-- Where the option was not given, the value of the variable stands in for it. -/
def fillIn (standIn : Option String) : Reading Unit := do
  if (← get).config.isNone then
    match standIn with
    | none => return ()
    | some value => setConfig (some value)

end Reading

/-! ## Levels -/

/-- Whether the next argument may be the name of a command. -/
def Given.expectsCommand (g : Given) : Bool :=
  !g.literal && !(g.pending matches some (.config none))

/-- What help is asked for: that of a command there is, or of another. -/
def helpFor : Level → List String → UsageError
  | _, [] => .helpAsked
  | level, name :: rest =>
    match level.command? name with
    | some deeper => helpFor deeper rest
    | none =>
      if name = "help" && level.hasCommands && rest.isEmpty then .helpAsked
      else .unknownCommand

/-- What was chosen at a level and under it. -/
structure Choice where
  json : Bool
  /-- The file with settings, if an option says it. -/
  option : Option String
  command : Command

/-- The command of a level without commands under it. -/
def commandOf (level : Level) (g : Given) : Except UsageError Command :=
  match level, g.file with
  | .run, some file => .ok (.runScenario file)
  | .check, some file => .ok (.checkScenario file)
  | .display, _ => .ok .showConfig
  | .run, none => .error .missingFile
  | .check, none => .error .missingFile
  | _, _ => if g.json || g.config.isSome then .error .missingCommand else .error .nothingGiven

/-- Finish a level, and tell what the option says there. -/
def close (standIn : Option String) (g : Given) :
    Except UsageError (Given × Option String) := do
  let (_, g) ← Reading.settle.run g
  let (_, filled) ← (Reading.fillIn standIn).run g
  return (filled, g.config)

/-- Read the arguments of a level and those under it. -/
def read (standIn : Option String) (level : Level) :
    (given : Given) → List String → Except UsageError Choice
  | g, [] => do
    let (g, option) ← close standIn g
    return ⟨g.json, option, ← commandOf level g⟩
  | g, arg :: rest => do
    if g.expectsCommand && arg = "help" && level.hasCommands then
      .error (helpFor level rest)
    else
      match (if g.expectsCommand then level.command? arg else none) with
      | some deeper =>
        let choice ← read standIn deeper {} rest
        let (g, option) ← close standIn g
        return ⟨g.json || choice.json, choice.option.or option, choice.command⟩
      | none =>
        let (_, g) ← (Reading.argument level arg).run g
        read standIn level g rest

/-- The command line that arguments make. -/
def parse (standIn : Option String) (arguments : List String) :
    Except UsageError CommandLine := do
  let choice ← read standIn .top {} arguments
  return ⟨choice.json, choice.option.or standIn, choice.command⟩

end CommandLine

end PageTimers
