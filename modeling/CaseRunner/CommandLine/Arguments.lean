import CaseRunner.FilePath
import CaseRunner.Journal.Filter

/-!
# `CaseRunner.CommandLine.Arguments`: reading the command line

The program has two commands. `check` takes an option with the path of a configuration,
`parse` takes a path and a flag. Everywhere an option sets the level of the log. Options
are given at most once, with their value after an equals sign or in the next argument;
after two dashes alone everything is a path.

The value of an option or a path is looked at only when the next option or the end of
the arguments is reached (`settle`). Of several faults that decides which one counts.
-/

set_option autoImplicit false

namespace CaseRunner.CommandLine

/-- Why a command line is refused, or answered with a text instead of a command. -/
inductive Refusal where
  /-- There are no arguments. -/
  | nothingGiven
  /-- Help is asked for. -/
  | help
  /-- The version is asked for. -/
  | version
  /-- A command is missing. -/
  | missingCommand
  /-- There is no such command. -/
  | unknownCommand
  /-- There is no such argument. -/
  | unknownArgument
  /-- An argument has no value, or a wrong one. -/
  | badValue
  /-- A flag has a value. -/
  | unwantedValue
  /-- An argument is given twice. -/
  | repeated
  /-- The path is missing. -/
  | missingPath
  deriving DecidableEq, Repr

/-- The levels of the log that can be asked for, with their names. -/
def logLevels : List (String × Journal.Detail) :=
  [("error", 1), ("warn", 2), ("info", 3), ("debug", 4), ("trace", 5)]

/-- What the program is to do. -/
inductive Command where
  /-- Check a configuration and show what would be started. -/
  | check (config : Option FilePath)
  /-- Read a result artifact and show a summary, with all details if `verbose`. -/
  | parse (path : FilePath) (verbose : Bool)
  deriving DecidableEq, Repr

/-- A command line that makes sense. -/
structure Arguments where
  /-- The level of the log, if asked for. -/
  logLevel : Option Journal.Detail
  /-- The command. -/
  command : Command
  deriving DecidableEq, Repr

/-- A place in the command line: before a command or within one. -/
inductive Place where
  /-- Before a command. -/
  | top
  /-- Within `check`. -/
  | check
  /-- Within `parse`. -/
  | parse
  deriving DecidableEq, Repr

/-- Something that takes a value. -/
inductive Slot where
  /-- The level of the log. -/
  | logLevel
  /-- The path of the configuration. -/
  | config
  /-- The path of the artifact. -/
  | path
  deriving DecidableEq, Repr

/-- What has been read at one place. -/
structure Taken where
  /-- The level of the log. -/
  logLevel : Option Journal.Detail
  /-- The path of the configuration. -/
  config : Option FilePath
  /-- The path of the artifact. -/
  path : Option FilePath
  /-- Whether all details are asked for. -/
  verbose : Bool
  /-- A slot whose value has not been looked at, and the value if it is there. -/
  pending : Option (Slot × Option String)
  deriving DecidableEq, Repr

namespace Taken

/-- Nothing has been read. -/
def nothing : Taken := ⟨none, none, none, false, none⟩

/-- The path that a value gives; there is no empty path. -/
def pathOf (value : String) : Except Refusal FilePath :=
  if value.isEmpty then .error .badValue else .ok value

/-- Puts a value into a slot, which must be free. -/
def store (t : Taken) (slot : Slot) (value : String) : Except Refusal Taken :=
  match slot with
  | .logLevel =>
    if t.logLevel.isSome then .error .repeated
    else
      match logLevels.lookup value with
      | some level => .ok { t with logLevel := some level }
      | none => .error .badValue
  | .config =>
    if t.config.isSome then .error .repeated
    else (pathOf value).map fun path => { t with config := some path }
  | .path => (pathOf value).map fun path => { t with path := some path }

/-- Looks at the value that has not been looked at. -/
def settle (t : Taken) : Except Refusal Taken :=
  match t.pending with
  | none => .ok t
  | some (_, none) => .error .badValue
  | some (slot, some value) => store { t with pending := none } slot value

/-- Whether the next argument is the value of the option before it. -/
def awaitsValue (t : Taken) : Bool :=
  match t.pending with
  | some (_, none) => true
  | _ => false

/-- An option, with a value after an equals sign or not. -/
def takeOption (t : Taken) (slot : Slot) (attached : Option String) : Except Refusal Taken := do
  let t ← t.settle
  match attached with
  | some value => t.store slot value
  | none => return { t with pending := some (slot, none) }

/-- A flag that gives a refusal; it has no value. -/
def refuseBy (t : Taken) (refusal : Refusal) (attached : Option String) :
    Except Refusal Taken := do
  if attached.isSome then throw .unwantedValue
  let _ ← t.settle
  throw refusal

/-- The flag for all details. -/
def takeVerbose (t : Taken) (attached : Option String) : Except Refusal Taken := do
  if attached.isSome then throw .unwantedValue
  let t ← t.settle
  if t.verbose then throw .repeated
  return { t with verbose := true }

/-- An argument that begins with two dashes, in its name and the value attached to it. -/
def takeLong (t : Taken) (place : Place) (name : String) (attached : Option String) :
    Except Refusal Taken :=
  match name, place with
  | "log-level", _ => t.takeOption .logLevel attached
  | "help", _ => t.refuseBy .help attached
  | "version", .top => t.refuseBy .version attached
  | "config", .check => t.takeOption .config attached
  | "verbose", .parse => t.takeVerbose attached
  | _, _ => .error .unknownArgument

/-- An argument that begins with one dash. -/
def takeShort (t : Taken) (place : Place) (letters : List Char) : Except Refusal Taken :=
  match letters, place with
  | 'h' :: _, _ => t.refuseBy .help none
  | 'V' :: _, .top => t.refuseBy .version none
  | _, _ => .error .unknownArgument

/-- An argument that is no option; before a command and in `check` there is no place for
one. -/
def takePlain (t : Taken) (place : Place) (argument : String) : Except Refusal Taken :=
  match place with
  | .top => .error .unknownCommand
  | .check => .error .unknownArgument
  | .parse =>
    if t.path.isSome || t.pending.any (·.1 = .path) then .error .unknownArgument
    else do
      let t ← t.settle
      return { t with pending := some (.path, some argument) }

/-- The name and the attached value of an argument that begins with two dashes. -/
def splitLong (text : List Char) : String × Option String :=
  (String.ofList (text.takeWhile (· ≠ '=')),
    match text.dropWhile (· ≠ '=') with
    | [] => none
    | _ :: value => some (String.ofList value))

/-- One argument before two dashes alone. -/
def take (t : Taken) (place : Place) (argument : String) : Except Refusal Taken :=
  match argument.toList with
  | '-' :: '-' :: text =>
    let (name, attached) := splitLong text
    t.takeLong place name attached
  | '-' :: c :: letters => t.takeShort place (c :: letters)
  | _ =>
    match t.pending with
    | some (slot, none) => .ok { t with pending := some (slot, some argument) }
    | _ => t.takePlain place argument

end Taken

/-- Reads the arguments of a command. -/
def readCommand (place : Place) (trailing : Bool) (t : Taken) :
    List String → Except Refusal Taken
  | [] => t.settle
  | argument :: rest =>
    if trailing then do readCommand place true (← t.takePlain place argument) rest
    else if argument = "--" then readCommand place true t rest
    else do readCommand place false (← t.take place argument) rest

/-- Reads what follows `help`: the names of commands. -/
def readHelp : List String → Refusal
  | [] => .help
  | [name] => if name = "check" ∨ name = "parse" ∨ name = "help" then .help else .unknownCommand
  | _ => .unknownCommand

/-- The command that was read at its place. -/
def commandOf (place : Place) (t : Taken) : Except Refusal Command :=
  match place with
  | .parse =>
    match t.path with
    | some path => .ok (.parse path t.verbose)
    | none => .error .missingPath
  | _ => .ok (.check t.config)

/-- Reads a command, after what has been read before it. A level given within the command
counts before one given outside. -/
def enterCommand (place : Place) (outer : Taken) (rest : List String) :
    Except Refusal Arguments := do
  let inner ← readCommand place false .nothing rest
  let command ← commandOf place inner
  let outer ← outer.settle
  return ⟨inner.logLevel <|> outer.logLevel, command⟩

/-- What two dashes alone and one more argument before a command come to. -/
def afterDashes (argument : String) : Refusal :=
  if argument = "check" ∨ argument = "parse" ∨ argument = "help" then .unknownArgument
  else .unknownCommand

/-- The end of the arguments, and no command. -/
def withoutCommand (t : Taken) : Refusal :=
  match t.settle with
  | .error refusal => refusal
  | .ok t => if t.logLevel.isSome then .missingCommand else .nothingGiven

/-- Reads the arguments from before the command. -/
def readTop (t : Taken) : List String → Except Refusal Arguments
  | [] => .error (withoutCommand t)
  | argument :: rest =>
    if argument = "check" ∧ t.awaitsValue = false then enterCommand .check t rest
    else if argument = "parse" ∧ t.awaitsValue = false then enterCommand .parse t rest
    else if argument = "help" ∧ t.awaitsValue = false then .error (readHelp rest)
    else if argument = "--" then
      match rest with
      | [] => .error (withoutCommand t)
      | next :: _ => .error (afterDashes next)
    else do readTop (← t.take .top argument) rest

/-- Reads the command line. -/
def read (arguments : List String) : Except Refusal Arguments := readTop .nothing arguments

end CaseRunner.CommandLine
