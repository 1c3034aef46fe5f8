import CaseRunner.Isolation.Lookup

/-!
# `CaseRunner.Isolation.Scope`: what an isolated run changes, and how it is put back

The scope of a configuration is its two directories and the test set of each item. It is
read before anything is changed, and from it everything is put back afterwards. Putting
back goes on past failures and says at the end whether all went well.
-/

set_option autoImplicit false

namespace CaseRunner.Isolation

open CaseRunner.Remote
open CaseRunner.Remote.Action

variable {σ : Type}

/-- An item and its test set. -/
structure Assignment where
  /-- The item. -/
  item : ItemRef
  /-- The test set it had. -/
  testSet : Option TestSetRef
  deriving DecidableEq, Repr

/-- The directories and the test sets of a configuration. -/
structure Scope where
  /-- The data directory. -/
  dataDir : String
  /-- The report directory. -/
  reportDir : String
  /-- The items in order, each with its test set. -/
  assignments : List Assignment
  deriving DecidableEq, Repr

namespace Scope

/-- Reads the test set of an item. -/
def assignmentOf (item : ItemRef) : Action σ RemoteFault Assignment := do
  return ⟨item, ← testSet item⟩

/-- Reads the scope of a configuration. -/
def capture (config : ConfigRef) : Action σ RemoteFault Scope := do
  let dataDir ← Remote.dataDir config
  let reportDir ← Remote.reportDir config
  let assignments ← (← Remote.items config).mapM assignmentOf
  return ⟨dataDir, reportDir, assignments⟩

/-- The items in order. -/
def items (scope : Scope) : List ItemRef := scope.assignments.map (·.item)

/-- Puts the test set of one item back. -/
def restoreItem (index : Nat) (a : Assignment) : Action σ Failure Bool := do
  match ← attempt (setTestSet a.item a.testSet) with
  | .ok () => return true
  | .error fault =>
    note .error .snapshot "could not restore test set of configuration item"
      [("item", toString index), ("error", fault.message)]
    return false

/-- Puts the test sets of items back, counted from `index` on. -/
def restoreItems (index : Nat) : List Assignment → Action σ Failure Bool
  | [] => return true
  | a :: rest => do
    let restored ← restoreItem index a
    return (← restoreItems (index + 1) rest) && restored

/-- Puts the test sets of all items back. -/
def restoreTestSets (scope : Scope) : Action σ Failure Bool := restoreItems 0 scope.assignments

/-- Puts a directory back by `restore`; `what` is what it is called. -/
def restoreDirectory (what : String) (restore : Action σ RemoteFault Unit) :
    Action σ Failure Bool := do
  match ← attempt restore with
  | .ok () => return true
  | .error fault =>
    note .error .snapshot s!"could not restore {what} directory" [("error", fault.message)]
    return false

/-- Puts both directories back. -/
def restoreDirectories (scope : Scope) (config : ConfigRef) : Action σ Failure Bool := do
  note .info .snapshot "resetting test data and report directory"
    [("data_dir", scope.dataDir), ("report_dir", scope.reportDir)]
  let dataRestored ← restoreDirectory "test data" (setDataDir config scope.dataDir)
  let reportRestored ← restoreDirectory "report" (setReportDir config scope.reportDir)
  return dataRestored && reportRestored

/-- The name of an assigned test set as it is shown, if the tool tells it. -/
def shownAssignment (a : Assignment) : Action σ RemoteFault String := do
  match a.testSet with
  | none => return "None"
  | some set =>
    match ← attempt (setName set) with
    | .ok name => return s!"Some({Text.quoted name})"
    | .error (_ : RemoteFault) => return "None"

/-- The scope as it is shown. -/
def shown (scope : Scope) : Action σ RemoteFault String := do
  let sets ← scope.assignments.mapM shownAssignment
  return "ExecutionScopeSnapshot \x7b data_dir: " ++ Text.quoted scope.dataDir
    ++ ", report_dir: " ++ Text.quoted scope.reportDir
    ++ ", test_sets: " ++ Text.bracketed sets ++ " \x7d"

end Scope

end CaseRunner.Isolation
