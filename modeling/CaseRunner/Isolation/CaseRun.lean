import CaseRunner.Config.Settings
import CaseRunner.Files.CopyBack
import CaseRunner.Isolation.Scope

/-!
# `CaseRunner.Isolation.CaseRun`: a run of exactly one test case

To run one test case of a configuration, its directories are set to empty ones and its
items to a temporary test set with that test case alone. The tool has no transactions, so
the run is wrapped in one here: the scope of the configuration is captured, changes are
made and recorded in `Applied`, the run is waited for, and then what was changed is put
back, whatever happened (`compensate`). A fault anywhere makes the answer `false`.

Putting back has a fixed order: the test sets, then the copy of the artifacts if the run
was started, then the directories, then the temporary test set is deleted if it was
created. A step that fails does not keep the next one from being taken.
-/

set_option autoImplicit false

namespace CaseRunner.Isolation

open CaseRunner.Config (CaseRequest Millis)
open CaseRunner.Files (FileStore CopyBack)
open CaseRunner.Remote
open CaseRunner.Remote.Action

variable {σ : Type}

/-- The changes that have been made. -/
structure Applied where
  /-- The data directory, if it was set. -/
  dataDir : Option FilePath
  /-- The report directory, if it was set. -/
  reportDir : Option FilePath
  /-- The temporary test set, if it was created. -/
  tempTestSet : Option TestSetRef
  /-- Whether the run was started. -/
  runStarted : Bool
  deriving DecidableEq, Repr

/-- No change has been made. -/
def Applied.nothing : Applied := ⟨none, none, none, false⟩

/-- The directories that were set. -/
def Applied.dirs (applied : Applied) : List FilePath :=
  applied.dataDir.toList ++ applied.reportDir.toList

/-- What became of the changes: those that were made, and the failure that ended them. -/
structure Progress where
  /-- The changes that were made. -/
  applied : Applied
  /-- How they ended. -/
  result : Except Failure Unit

/-- The configuration and the test case of a request. -/
def resolve (project : ProjectRef) (request : CaseRequest) :
    Action σ Failure (ConfigRef × TestCase) := do
  let some config ← mapFailure .remote (configurationNamed project request.executionConfig)
    | throw (.configurationNotFound request.executionConfig)
  let some testCase ← mapFailure .remote (caseNamed project request.testCase)
    | throw (.caseNotFound request.testCase)
  return (config, testCase)

/-- Waits until a run is neither running nor pending, asking once per interval. If the user
interrupts, the run is cancelled. -/
def awaitCompletion (run : Nat) (interval : Millis) : Nat → Action σ Failure Unit
  | 0 => unfinished
  | rounds + 1 => do
    let busy ← mapFailure .remote do
      if ← isRunning run then return true else isPending run
    if !busy then note .info .transaction "execution finished" []
    else
      match ← attempt (pause interval "waiting for the execution to finish") with
      | .ok () => awaitCompletion run interval rounds
      | .error failure => do
        note .info .transaction "cancelling TPT execution" []
        match ← attempt (cancel run) with
        | .ok () => pure ()
        | .error (fault : RemoteFault) =>
          note .warning .transaction "could not cancel TPT execution" [("error", fault.message)]
        throw failure

/-- Gives each item a test set. -/
def assignAll (set : TestSetRef) : List ItemRef → Action σ RemoteFault Unit
  | [] => return ()
  | item :: rest => do
    setTestSet item (some set)
    assignAll set rest

section
variable [FileStore σ]

/-- An empty directory at the path; `what` is what it is for. -/
def prepareDir (dir : FilePath) (what : String) : FileAction σ FilePath := do
  let path ← FileAction.tryAsk fun files => FileStore.absolute files dir
  FileAction.note .info .transaction s!"creating and/or cleaning {what} directory"
    [("path", path.text)]
  FileAction.change (FileStore.createDir path)
  FileAction.change (FileStore.clearDir path)
  return path

/-- Sets an empty data directory. -/
def isolateData (config : ConfigRef) (request : CaseRequest) : Action σ Failure FilePath := do
  let dir ← ofFiles (prepareDir request.dataDir "test data")
  note .info .transaction "setting test data directory" [("path", dir.text)]
  mapFailure .remote (setDataDir config dir.text)
  return dir

/-- Sets an empty report directory. -/
def isolateReport (config : ConfigRef) (request : CaseRequest) : Action σ Failure FilePath := do
  let dir ← ofFiles (prepareDir request.reportDir "report")
  note .info .transaction "setting report directory" [("path", dir.text)]
  mapFailure .remote (setReportDir config dir.text)
  return dir

/-- Creates a temporary test set with a name of its own. -/
def createTempSet (project : ProjectRef) (request : CaseRequest) :
    Action σ Failure TestSetRef := mapFailure .remote do
  let name ← uniqueTestSetName project request.tempTestSet
  note .info .transaction "creating temporary test set"
    [("test_set", name), ("test_case", request.testCase)]
  createTestSet project name

/-- Puts the test case alone into the temporary test set, gives that to all items, and
starts the run. -/
def startRun (config : ConfigRef) (testCase : TestCase) (scope : Scope) (set : TestSetRef)
    (request : CaseRequest) : Action σ Failure Nat := mapFailure .remote do
  addTestCase set testCase
  assignAll set scope.items
  note .info .transaction "starting execution" [("config", request.executionConfig)]
  run config

/-- One step of making changes: on failure that is the end, with the changes `applied`. -/
def orStop {α : Type} (applied : Applied) (step : Action σ Failure α)
    (next : α → Action σ Failure Progress) : Action σ Failure Progress := do
  match ← attempt step with
  | .ok a => next a
  | .error failure => return ⟨applied, .error failure⟩

/-- Makes the changes one after the other, starts the run and waits for its end. -/
def changeAndRun (project : ProjectRef) (config : ConfigRef) (testCase : TestCase)
    (scope : Scope) (request : CaseRequest) : Action σ Failure Progress :=
  let applied := Applied.nothing
  orStop applied (isolateData config request) fun dataDir =>
    let applied := { applied with dataDir := some dataDir }
    orStop applied (isolateReport config request) fun reportDir =>
      let applied := { applied with reportDir := some reportDir }
      orStop applied (createTempSet project request) fun set =>
        let applied := { applied with tempTestSet := some set }
        orStop applied (startRun config testCase scope set request) fun number => do
          let applied := { applied with runStarted := true }
          let patience := (← read).patience
          orStop applied (awaitCompletion number request.statusInterval patience) fun () =>
            return ⟨applied, .ok ()⟩

/-- Copies the artifacts of a run that was started. -/
def keepArtifacts (copyBack : CopyBack σ) (dirs : List FilePath) : Action σ Failure Unit := do
  modify fun w => { w with copies := w.copies ++ [⟨w.calls.length, dirs⟩] }
  match ← attempt (ofFiles (copyBack dirs)) with
  | .ok () => return ()
  | .error (failure : Failure) =>
    note .error .transaction "could not copy results back" [("error", failure.message)]

/-- Deletes the temporary test set. -/
def deleteTempSet (project : ProjectRef) (set : TestSetRef) : Action σ Failure Unit := do
  let name := match ← attempt (setName set) with
    | .ok name => name
    | .error (_ : RemoteFault) => "<unknown>"
  note .info .transaction "deleting temporary test set" [("test_set", name)]
  match ← attempt (deleteTestSet project set) with
  | .ok () => return ()
  | .error (fault : RemoteFault) =>
    note .warning .transaction "could not delete temporary test set"
      [("test_set", name), ("error", fault.message)]

/-- Puts everything back, and says whether the configuration is as it was. -/
def compensate (copyBack : CopyBack σ) (project : ProjectRef) (config : ConfigRef)
    (scope : Scope) (applied : Applied) : Action σ Failure Bool := do
  let setsRestored ← scope.restoreTestSets
  if applied.runStarted then keepArtifacts copyBack applied.dirs
  let dirsRestored ← scope.restoreDirectories config
  if let some set := applied.tempTestSet then deleteTempSet project set
  return setsRestored && dirsRestored

/-- Runs one test case and leaves the configuration as it was. The answer says whether the
run came to its end and everything was put back. -/
def runCase (copyBack : CopyBack σ) (project : ProjectRef) (request : CaseRequest) :
    Action σ Failure Bool := do
  match ← attempt (resolve project request) with
  | .error (failure : Failure) => do
    note .error .transaction "cannot run test case"
      [("config", request.executionConfig), ("test_case", request.testCase),
        ("error", failure.message)]
    return false
  | .ok (config, testCase) =>
    match ← attempt (Scope.capture config) with
    | .error (fault : RemoteFault) => do
      note .error .transaction "could not read execution configuration"
        [("config", request.executionConfig), ("error", fault.message)]
      return false
    | .ok scope => do
      let progress ← changeAndRun project config testCase scope request
      if let .error failure := progress.result then
        note .error .transaction "test case execution failed"
          [("config", request.executionConfig), ("test_case", request.testCase),
            ("error", failure.message)]
      let restored ← compensate copyBack project config scope progress.applied
      return progress.result.isOk && restored

end

end CaseRunner.Isolation
