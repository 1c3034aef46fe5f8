import CaseRunner.Remote.Action

/-!
# `CaseRunner.Remote.Tool`: what the tool does when it is asked

Each function makes one call. Questions are answered from the world or, where the answer
is the tool's own affair, from the surroundings. Deleting a test set removes every test
set of its name from the project.
-/

set_option autoImplicit false

namespace CaseRunner.Remote

variable {σ : Type}

/-! ### The tool -/

/-- Whether a tool is ready. -/
def isReady (tool : ToolRef) : Action σ RemoteFault Bool :=
  perform (.isReady tool) fun history => do return (← read).ready history tool

/-- The version of a tool. -/
def version (tool : ToolRef) : Action σ RemoteFault String :=
  perform (.version tool) fun _ => do return (← read).version tool

/-- What comes of opening a project. -/
structure OpenResult where
  /-- The project, if the tool could open the file. -/
  project : Option ProjectRef
  /-- What the tool said meanwhile. -/
  logs : List String
  deriving DecidableEq, Repr

/-- The result as it is shown. -/
def OpenResult.shown (result : OpenResult) : String :=
  "OpenResult \x7b project: " ++ toString result.project.isSome
    ++ ", logs: " ++ Text.bracketed (result.logs.map Text.quoted) ++ " \x7d"

/-- Opens a project. -/
def openFile (path : FilePath) : Action σ RemoteFault OpenResult :=
  perform (.openProject path) fun _ => do
    match (← read).openable.find? (·.1.same path) with
    | some (_, number) =>
      modify fun w => { w with opened := w.opened ++ [number] }
      return ⟨some ((← get).projectRef number), []⟩
    | none => return ⟨none, (← read).openLogs⟩

/-- The open projects. -/
def openProjects : Action σ RemoteFault (List ProjectRef) :=
  query .openProjects fun w => w.opened.map w.projectRef

section
variable [Files.FileStore σ]

/-- The world after a run has written a file. -/
def World.produce (record : RunRecord) (w : World σ) (product : Product) : World σ :=
  let dir : FilePath := .ofString <| match product.dir with
    | .data => record.dataDir
    | .report => record.reportDir
  { w with files := Files.FileStore.deposit (dir.join product.path) product.contents w.files }

/-- Starts a run of a configuration, and gives its number. -/
def run (config : ConfigRef) : Action σ RemoteFault Nat :=
  perform (.run config) fun _ => do
    let record := (← get).runRecord config
    let products := (← read).products
    let number := (← get).runs.length
    modify fun w => products.foldl (World.produce record) { w with runs := w.runs ++ [record] }
    return number

end

/-! ### Projects -/

/-- The file of a project. -/
def projectFile (p : ProjectRef) : Action σ RemoteFault (Option FilePath) :=
  query (.file p) fun w => (w.project p.number).file

/-- The execution configurations of a project. -/
def configurations (p : ProjectRef) : Action σ RemoteFault (List ConfigRef) :=
  query (.configurations p) fun w => w.configRefs p

/-- The top of the tree of test cases. -/
def topLevel (p : ProjectRef) : Action σ RemoteFault (List CaseTree) :=
  query (.topLevel p) fun w => (w.project p.number).cases

/-- The test sets of a project. -/
def testSets (p : ProjectRef) : Action σ RemoteFault (List TestSetRef) :=
  query (.testSets p) fun w => (w.project p.number).testSets

/-- Creates a test set, which is the last one of the project. -/
def createTestSet (p : ProjectRef) (name : String) : Action σ RemoteFault TestSetRef :=
  perform (.createTestSet p name) fun _ => do
    let set : TestSetRef := ⟨(← get).contents.length, name⟩
    modify fun w =>
      { w.updateProject p.number fun project =>
          { project with
            testSets := project.testSets ++ [set]
            created := project.created ++ [set] } with
        contents := w.contents ++ [[]] }
    return set

/-- Deletes the test sets of a name. -/
def deleteTestSet (p : ProjectRef) (set : TestSetRef) : Action σ RemoteFault Unit :=
  command (.deleteTestSet p set) fun w => w.updateProject p.number fun project =>
    { project with
      testSets := project.testSets.filter fun s => s.name ≠ set.name
      deleted := project.deleted ++ [set.name] }

/-- Closes a project. -/
def closeProject (p : ProjectRef) : Action σ RemoteFault Unit :=
  command (.close p) fun w =>
    w.updateProject p.number fun project => { project with closed := true }

/-! ### Configurations and test sets -/

/-- The name of a configuration. -/
def configName (c : ConfigRef) : Action σ RemoteFault String :=
  query (.configName c) fun w => (w.configuration c).name

/-- The items of a configuration. -/
def items (c : ConfigRef) : Action σ RemoteFault (List ItemRef) :=
  query (.items c) fun w => (w.configuration c).items.mapIdx fun index _ => ⟨c, index⟩

/-- The data directory of a configuration. -/
def dataDir (c : ConfigRef) : Action σ RemoteFault String :=
  query (.dataDir c) fun w => (w.configuration c).dataDir

/-- The report directory of a configuration. -/
def reportDir (c : ConfigRef) : Action σ RemoteFault String :=
  query (.reportDir c) fun w => (w.configuration c).reportDir

/-- Sets the data directory of a configuration. -/
def setDataDir (c : ConfigRef) (path : String) : Action σ RemoteFault Unit :=
  command (.setDataDir c path) fun w =>
    w.updateConfiguration c fun config => { config with dataDir := path }

/-- Sets the report directory of a configuration. -/
def setReportDir (c : ConfigRef) (path : String) : Action σ RemoteFault Unit :=
  command (.setReportDir c path) fun w =>
    w.updateConfiguration c fun config => { config with reportDir := path }

/-- The test set of an item. -/
def testSet (i : ItemRef) : Action σ RemoteFault (Option TestSetRef) :=
  query (.testSet i) fun w => (w.configuration i.config).items.getD i.index none

/-- Sets the test set of an item, or takes it away. -/
def setTestSet (i : ItemRef) (set : Option TestSetRef) : Action σ RemoteFault Unit :=
  command (.setTestSet i set) fun w =>
    w.updateConfiguration i.config fun config =>
      { config with items := config.items.set i.index set }

/-- The name of a test set. -/
def setName (set : TestSetRef) : Action σ RemoteFault String :=
  query (.setName set) fun _ => set.name

/-- Adds a test case to a test set. -/
def addTestCase (set : TestSetRef) (testCase : TestCase) : Action σ RemoteFault Unit :=
  command (.addTestCase set testCase) fun w =>
    { w with contents := w.contents.modify set.number fun cases => cases ++ [testCase] }

/-! ### Test cases -/

/-- The name of a group. -/
def groupName (g : GroupRef) : Action σ RemoteFault String := query (.groupName g) fun _ => g.name

/-- The children of a group, given what they are. -/
def groupItems (g : GroupRef) (children : List CaseTree) : Action σ RemoteFault (List CaseTree) :=
  query (.groupItems g) fun _ => children

/-- The name of a test case. -/
def caseName (c : TestCase) : Action σ RemoteFault String := query (.caseName c) fun _ => c.name

/-! ### Runs -/

/-- Whether a run is running. -/
def isRunning (number : Nat) : Action σ RemoteFault Bool :=
  perform (.isRunning number) fun history => do return (← read).running history number

/-- Whether a run is pending. -/
def isPending (number : Nat) : Action σ RemoteFault Bool :=
  perform (.isPending number) fun history => do return (← read).pending history number

/-- Cancels a run. -/
def cancel (number : Nat) : Action σ RemoteFault Unit := command (.cancel number) id

end CaseRunner.Remote
