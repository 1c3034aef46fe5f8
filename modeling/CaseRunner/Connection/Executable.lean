import CaseRunner.Workspace

/-!
# `CaseRunner.Connection.Executable`: which executable starts the tool

The user lists executables; the first one that exists as a file is taken.
-/

set_option autoImplicit false

namespace CaseRunner.Connection

open CaseRunner.Files (FileStore)
open FileAction

variable {σ : Type} [FileStore σ]

/-- The first of the candidates that is a file. -/
def firstFile : List FilePath → FileAction σ (Option FilePath)
  | [] => return none
  | candidate :: rest => do
    note .info .command "trying TPT executable" [("path", candidate.text)]
    if ← ask fun files => FileStore.isFile files candidate then
      note .debug .command "selected TPT executable" [("path", candidate.text)]
      return some candidate
    else
      firstFile rest

/-- The executable to start. -/
def selectExecutable (candidates : List FilePath) : FileAction σ FilePath := do
  match ← firstFile candidates with
  | some path => return path
  | none =>
    note .error .command "TPT executable not found" [("tried", toString candidates.length)]
    throw (.executableNotFound candidates)

end CaseRunner.Connection
