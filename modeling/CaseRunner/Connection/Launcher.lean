import CaseRunner.Connection.Command
import CaseRunner.Connection.Process
import CaseRunner.Connection.Shell
import CaseRunner.Failure
import CaseRunner.Files.Disk

/-!
# `CaseRunner.Connection.Launcher`: starting a program from the disk

A program is a file that can be carried out. Which files are programs, and what they write, is
left open: it is what `Programs` tells. A program whose name has no slash is looked for in the
directories for programs. If a program cannot be started, the failure says what was to be started
and why it could not be.
-/

set_option autoImplicit false

namespace CaseRunner.Connection

open CaseRunner.Files (Disk Place SystemFault)

/-- The directories in which programs are looked for. -/
def programDirs : List FilePath := ["/usr/local/bin", "/usr/bin", "/bin"]

/-- Why a program cannot be started. -/
inductive LaunchFault where
  /-- A text for the operating system has the character that ends such texts. -/
  | zeroCharacter
  /-- The operating system refuses. -/
  | system (cause : SystemFault)
  deriving DecidableEq, Repr

/-- What the fault is called. -/
def LaunchFault.message : LaunchFault → String
  | .zeroCharacter => "nul byte found in provided data"
  | .system cause => cause.message

/-- What can be carried out. -/
structure Programs where
  /-- Whether there is a program at a place. -/
  isProgram : Place → Bool
  /-- What the program at a place writes to its two streams when it is started under a name with
  arguments. -/
  output : Place → String → List String → Bytes × Bytes

namespace Programs

/-- The place of a program at a path. -/
def locate (programs : Programs) (disk : Disk) (path : FilePath) : Except SystemFault Place := do
  let place ← disk.walk path
  if programs.isProgram place then return place else throw .notPermitted

/-- The place of a program. One that is found and cannot be carried out counts before one
that is not found. -/
def find (programs : Programs) (disk : Disk) (path : FilePath) : Except SystemFault Place :=
  if path.isEmpty then .error .noEntry
  else if path.text.toList.contains '/' then programs.locate disk path
  else
    let attempts := programDirs.map fun dir => programs.locate disk (dir.join path)
    match attempts.find? (·.isOk) with
    | some found => found
    | none =>
      .error (if attempts.any fun a => a matches .error .notPermitted then .notPermitted
        else .noEntry)

/-- Starts a program: what it writes, or why it could not be started. -/
def start (programs : Programs) (disk : Disk) (command : Command) : Except Failure OutputPlan :=
  let fails (fault : LaunchFault) : Failure :=
    .other [s!"could not start TPT '{command.program.text}'", fault.message]
  if (command.program.text :: command.arguments).any (·.toList.contains '\x00') then
    .error (fails .zeroCharacter)
  else
    match programs.find disk command.program with
    | .error cause => .error (fails (.system cause))
    | .ok place =>
      let (stdout, stderr) := programs.output place command.program.text command.arguments
      .ok ⟨[⟨0, .stdout, stdout⟩, ⟨0, .stderr, stderr⟩], true, true⟩

end Programs

/-! ### The shell alone -/

/-- Where the shell is. -/
def shellPlace : Place := ["bin".toList, "sh".toList]

/-- What the shell writes when it is started with arguments. -/
def shellOutput (program : String) : List String → Bytes × Bytes
  | "-c" :: script :: parameters =>
    let parameters := if parameters.isEmpty then [program] else parameters
    let state := Shell.run script parameters
    (state.stdout, state.stderr)
  | ["-c"] => ([], Text.utf8 s!"{program}: 0: -c requires an argument\n")
  | name :: _ => ([], Text.utf8 s!"{program}: 0: cannot open {name}: No such file\n")
  | [] => ([], [])

/-- A system for rehearsals, on which the shell is the only program. -/
def shellAlone : Programs := ⟨(· = shellPlace), fun _ => shellOutput⟩

/-- Starts a program where there is only the shell. -/
def start (disk : Disk) (command : Command) : Except Failure OutputPlan :=
  shellAlone.start disk command

/-- The lines of all output of a process, drained to the end. -/
def OutputPlan.lines (plan : OutputPlan) : List OutputLine :=
  let last := (plan.output.map (·.time)).foldl max 0
  ((plan.start 0).advance last).1.filterMap fun
    | .line line => some line
    | .finished _ => none

end CaseRunner.Connection
