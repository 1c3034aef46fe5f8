import CaseRunner.Report.Artifact
import CaseRunner.Workspace

/-!
# `CaseRunner.Report.Load`: a result from a file

The result artifact is read from a file of any store. Whether the file cannot be read or
is no result, the failure is that of a malformed artifact and names the path.
-/

set_option autoImplicit false

namespace CaseRunner.Report

open CaseRunner.Files (FileStore)
open FileAction

/-- The failure of an artifact at a path. -/
def failureAt (path : FilePath) (text : String) : Failure :=
  .malformedArtifact s!"{path.text}: {text}"

/-- The result in a file. -/
def load {σ : Type} [FileStore σ] (path : FilePath) : FileAction σ CaseResult := do
  match FileStore.readBytes (← get).files path with
  | .error fault => throw (failureAt path s!"I/O error: {fault.message}")
  | .ok document =>
    modify fun w => (parseJournal document).foldl Workspace.note w
    match parse document with
    | .error fault => throw (failureAt path fault.message)
    | .ok result => return result

end CaseRunner.Report
