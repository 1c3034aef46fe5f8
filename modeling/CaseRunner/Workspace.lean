import CaseRunner.Failure
import CaseRunner.Files.Store
import CaseRunner.Journal.Entry

/-!
# `CaseRunner.Workspace`: what an activity without the tool works on

Activities that deal with files alone see the files and the journal. They may fail, and
what they changed until then stays changed. An activity whose end is not certain is given
a bound on its steps, and has no outcome if it does not end within the bound.
-/

set_option autoImplicit false

namespace CaseRunner

open CaseRunner.Files (FileFault Change FileStore)

/-- The files, and the journal with its last entry first. -/
structure Workspace (σ : Type) where
  /-- The files. -/
  files : σ
  /-- What has been noted, the last entry first. -/
  journal : List Journal.Entry
  deriving DecidableEq, Repr

/-- An activity that deals with files alone. -/
abbrev FileAction (σ α : Type) := ExceptT Failure (StateT (Workspace σ) Option) α

/-- The failure that a fault in the files leads to. -/
def Files.FileFault.failure (fault : FileFault) : Failure := .other fault.chain

/-- The journal with one more entry. -/
def Workspace.note {σ : Type} (w : Workspace σ) (entry : Journal.Entry) : Workspace σ :=
  { w with journal := entry :: w.journal }

/-- The entries in the order they were noted. -/
def Workspace.entries {σ : Type} (w : Workspace σ) : List Journal.Entry := w.journal.reverse

namespace FileAction

variable {σ α : Type}

/-- The activity has not come to its end within the bound. -/
def unfinished : FileAction σ α := ExceptT.mk fun _ => none

/-- Something is noted. -/
def note (severity : Journal.Severity) (origin : Journal.Origin) (message : String)
    (fields : List (String × String)) : FileAction σ Unit :=
  modify (·.note ⟨severity, origin, message, fields⟩)

/-- A question about the files. -/
def ask (question : σ → α) : FileAction σ α := do return question (← get).files

/-- A question about the files that may fail. -/
def tryAsk (question : σ → Except FileFault α) : FileAction σ α := do
  match question (← get).files with
  | .ok answer => return answer
  | .error fault => throw fault.failure

/-- A change of the files. -/
def change (change : Change σ α) : FileAction σ α := ExceptT.mk fun w =>
  let (result, files) := change.run.run w.files
  some (result.mapError (·.failure), { w with files := files })

end FileAction

end CaseRunner
