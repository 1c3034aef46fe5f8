import CaseRunner.Connection.Acquire
import CaseRunner.Isolation.CaseRun

/-!
# `CaseRunner.Session`: one step of a build

A session gets hold of the tool, opens the project, runs the configured test case and, if
the settings say so, closes the project again. Its answer is whether the run came to its
end and the configuration is as it was.
-/

set_option autoImplicit false

namespace CaseRunner

open CaseRunner.Config (Settings)
open CaseRunner.Files (FileStore CopyBack)
open CaseRunner.Remote
open CaseRunner.Remote.Action

variable {σ : Type} [FileStore σ]

/-- The way to keep artifacts that the settings ask for. -/
def Config.Settings.copyBack (settings : Settings) (depth : Nat) : CopyBack σ :=
  match settings.execution.artifactDir with
  | some destination => .into depth destination
  | none => .skip

namespace Session

/-- Gets hold of the tool, or notes why not. -/
def connect (settings : Settings) : Action σ Failure Bool := do
  match ← attempt (Connection.acquire settings.acquireOptions) with
  | .ok _ => return true
  | .error (failure : Failure) =>
    note .error .top "could not connect to TPT"
      [("host", settings.tool.host), ("port", toString settings.tool.port),
        ("binding", settings.tool.bindingName), ("error", failure.message)]
    return false

/-- The absolute path of the project, or a note why there is none. -/
def projectPath (settings : Settings) : Action σ Failure (Option FilePath) := do
  let path := settings.execution.project
  match ← attempt (ofFiles (FileAction.tryAsk fun files => FileStore.absolute files path)) with
  | .ok path => return some path
  | .error (failure : Failure) =>
    note .error .top "invalid project path" [("path", path.text), ("error", failure.message)]
    return none

/-- The open project, or a note why there is none. -/
def openProject (path : FilePath) : Action σ Failure (Option ProjectRef) := do
  match ← attempt (Isolation.openProject path) with
  | .ok project => return some project
  | .error (failure : Failure) =>
    note .error .top "could not open TPT project" [("error", failure.message)]
    return none

/-- Closes the project, or notes why not. -/
def closeProject (path : FilePath) : Action σ Failure Unit := do
  match ← attempt (Isolation.closeProject path) with
  | .ok () => return ()
  | .error (fault : RemoteFault) =>
    note .warning .top "could not close project"
      [("path", path.text), ("error", (Failure.remote fault).message)]

/-- Runs a session. -/
def run (copyBack : CopyBack σ) (settings : Settings) : Action σ Failure Bool := do
  if !(← connect settings) then return false
  let some path ← projectPath settings | return false
  let some project ← openProject path | return false
  let ok ← Isolation.runCase copyBack project settings.caseRequest
  if settings.execution.closeProject then closeProject path
  note .info .top "single test case execution done"
    [("success", toString ok), ("test_case", settings.execution.testCase)]
  return ok

end Session

end CaseRunner
