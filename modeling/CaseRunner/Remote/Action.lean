import CaseRunner.Remote.World

/-!
# `CaseRunner.Remote.Action`: activities that deal with the tool

An activity works on the world, in surroundings that do not change: what becomes of each
call, how the tool answers, when the user interrupts. Calls and answers may depend on all
calls made before, so any behaviour of the tool is described by functions of the history.

`perform` makes a call. A call that is not granted fails and leaves the tool as it was.
Time passes in pauses only; `pause` lasts for its interval or until the user interrupts.

A loop that might go on for ever is given `patience`, a bound on its rounds. An activity
that does not come to its end within the bound has no outcome.
-/

set_option autoImplicit false

namespace CaseRunner.Remote

open CaseRunner.Config (Millis seconds)
open CaseRunner.Connection (DrainReport OutputPlan streamClosed)

/-- A directory of a configuration. -/
inductive OutputDir where
  /-- The data directory. -/
  | data
  /-- The report directory. -/
  | report
  deriving DecidableEq, Repr

/-- A file that a run writes. -/
structure Product where
  /-- The directory of the configuration. -/
  dir : OutputDir
  /-- The path in that directory. -/
  path : FilePath
  /-- What is written. -/
  contents : Bytes
  deriving DecidableEq, Repr

/-- What does not change while an activity goes on. -/
structure Surroundings where
  /-- What becomes of a call after the calls before it. -/
  verdict : History → Call → Verdict
  /-- How the registry answers a lookup at a host and a port for a name. -/
  registry : History → String → Nat → String → Except LookupFault ToolRef
  /-- Whether a tool says that it is ready. -/
  ready : History → ToolRef → Bool
  /-- The version of a tool. -/
  version : ToolRef → String
  /-- The files that the tool can open as projects, and the numbers of those. -/
  openable : List (FilePath × Nat)
  /-- What the tool says when it cannot open a file. -/
  openLogs : List String
  /-- Whether the tool says that a run is running. -/
  running : History → Nat → Bool
  /-- Whether the tool says that a run is pending. -/
  pending : History → Nat → Bool
  /-- What a run writes when it starts. -/
  products : List Product
  /-- What comes of starting a process. -/
  launch : Connection.Command → Except Failure OutputPlan
  /-- Whether lines of output go to the journal instead of being collected. -/
  outputToJournal : Bool
  /-- When the user interrupts. -/
  interruptAt : Option Millis
  /-- The bound on the rounds of a loop. -/
  patience : Nat

/-- An activity that deals with the tool. -/
abbrev Action (σ ε α : Type) := ReaderT Surroundings (ExceptT ε (StateT (World σ) Option)) α

namespace Action

variable {σ ε ε' α : Type}

/-- The outcome of an activity and the world after it, if it comes to its end. -/
def outcome (x : Action σ ε α) (s : Surroundings) (w : World σ) : Option (Except ε α × World σ) :=
  ((x.run s).run).run w

/-- The activity has not come to its end within the bound. -/
def unfinished : Action σ ε α := fun _ => ExceptT.mk fun _ => none

/-- The activity, with its failure as a value. -/
def attempt (x : Action σ ε α) : Action σ ε' (Except ε α) := fun s =>
  ExceptT.mk ((fun result => .ok result) <$> (x.run s).run)

/-- The activity, with another kind of failure. -/
def mapFailure (f : ε → ε') (x : Action σ ε α) : Action σ ε' α := fun s =>
  ExceptT.mk (Except.mapError f <$> (x.run s).run)

/-- An activity that deals with files alone. -/
def ofFiles (x : FileAction σ α) : Action σ Failure α := fun _ =>
  ExceptT.mk fun w =>
    match x.run.run w.toWorkspace with
    | none => none
    | some (result, workspace) => some (result, { w with toWorkspace := workspace })

/-- Something is noted. -/
def note (severity : Journal.Severity) (origin : Journal.Origin) (message : String)
    (fields : List (String × String)) : Action σ ε Unit :=
  modify fun w => { w with toWorkspace := w.note ⟨severity, origin, message, fields⟩ }

end Action

namespace World

variable {σ : Type}

/-- A report of a drain is taken in. -/
def takeReport (toJournal : Bool) (w : World σ) : DrainReport → World σ
  | .line line =>
    if toJournal then { w with toWorkspace := w.note line.entry }
    else { w with lines := w.lines ++ [line] }
  | .finished stream => { w with toWorkspace := w.note (streamClosed stream) }

/-- Time passes up to a moment, and the process goes on meanwhile. -/
def advance (toJournal : Bool) (time : Millis) (w : World σ) : World σ :=
  match w.process with
  | none => { w with now := time }
  | some process =>
    let (reports, process) := process.advance time
    reports.foldl (takeReport toJournal) { w with now := time, process := some process }

end World

open CaseRunner.Remote.Action

variable {σ : Type}

/-- A call is made. If it is granted, `effect` is what the tool does, given the calls
before. -/
def perform {α : Type} (call : Call) (effect : History → Action σ RemoteFault α) :
    Action σ RemoteFault α := do
  let history := (← get).calls
  let verdict := (← read).verdict history call
  modify fun w => { w with calls := ⟨call, verdict⟩ :: history }
  match verdict with
  | .granted => effect history
  | .lost fault => throw fault
  | .refused fault => throw fault

/-- A call is made that the tool answers without a change. -/
def query {α : Type} (call : Call) (answer : World σ → α) : Action σ RemoteFault α :=
  perform call fun _ => do return answer (← get)

/-- A call is made that changes the tool. -/
def command (call : Call) (change : World σ → World σ) : Action σ RemoteFault Unit :=
  perform call fun _ => modify change

/-- The tool is looked up in the registry. A call that is not granted counts as a
registry that does not answer. -/
def lookup (host : String) (port : Nat) (binding : String) : Action σ LookupFault ToolRef := do
  let answer := perform (.lookup host port binding) fun history => do
    return (← read).registry history host port binding
  match ← (mapFailure (fun fault => LookupFault.unreachable fault.message) answer) with
  | .ok tool => return tool
  | .error fault => throw fault

/-- The latest moment that can be told, in seconds. -/
def lastSecond : Nat := Text.maxSigned

/-- How long a pause lasts whose end cannot be told: thirty years. -/
def longPause : Millis := 30 * 365 * 86400 * 1000

/-- The moment after a span of time, if it can be told. -/
def momentAfter (now span : Millis) : Option Millis :=
  if seconds (now + span) ≤ lastSecond then some (now + span) else none

/-- The user has interrupted. -/
def interrupted {α : Type} (activity : String) : Action σ Failure α := do
  note .warning .wait "interrupted" [("activity", activity)]
  throw (.interrupted activity)

/-- Waits for a span of time, unless the user interrupts. -/
def pause (interval : Millis) (activity : String) : Action σ Failure Unit := do
  let now := (← get).now
  let toJournal := (← read).outputToJournal
  let wake := (momentAfter now interval).getD (now + longPause)
  match (← read).interruptAt with
  | none => modify (·.advance toJournal wake)
  | some moment =>
    if moment ≤ now then interrupted activity
    else if moment < wake then do
      modify (·.advance toJournal moment)
      interrupted activity
    else modify (·.advance toJournal wake)

end CaseRunner.Remote
