import CaseRunner.Connection.Command
import CaseRunner.Connection.Process
import CaseRunner.Remote.Call
import CaseRunner.Workspace

/-!
# `CaseRunner.Remote.World`: the state of everything outside the program

The world holds the files, the journal, the time, the projects in the tool, the runs, and
the calls that were made. Projects, configurations, items and test sets are known by
their numbers; a test set keeps its number for good, whether a project lists it or not.
-/

set_option autoImplicit false

namespace CaseRunner.Remote

open CaseRunner.Config (Millis)
open CaseRunner.Connection (OutputLine Process Command)

/-- An execution configuration. -/
structure Configuration where
  /-- The name. -/
  name : String
  /-- The data directory. -/
  dataDir : String
  /-- The report directory. -/
  reportDir : String
  /-- The test set of each item. -/
  items : List (Option TestSetRef)
  deriving DecidableEq, Repr, Inhabited

/-- A project in the tool. -/
structure Project where
  /-- The file the project was loaded from. -/
  file : Option FilePath
  /-- The execution configurations. -/
  configurations : List Configuration
  /-- The top of the tree of test cases. -/
  cases : List CaseTree
  /-- The test sets, in order. -/
  testSets : List TestSetRef
  /-- The test sets that were created, in order. -/
  created : List TestSetRef
  /-- The names of the test sets that were deleted, in order. -/
  deleted : List String
  /-- Whether the project was closed. -/
  closed : Bool
  deriving Repr, Inhabited

/-- What a run was started with. -/
structure RunRecord where
  /-- The name of the configuration. -/
  config : String
  /-- The data directory. -/
  dataDir : String
  /-- The report directory. -/
  reportDir : String
  /-- The name of each item's test set. -/
  testSets : List (Option String)
  /-- The names of the test cases in each item's test set. -/
  testCases : List (List String)
  deriving DecidableEq, Repr

/-- A request to copy artifacts. -/
structure CopyRecord where
  /-- How many calls had been made before. -/
  after : Nat
  /-- The directories. -/
  dirs : List FilePath
  deriving DecidableEq, Repr

/-- Everything outside the program. -/
structure World (σ : Type) extends Workspace σ where
  /-- The time since the beginning. -/
  now : Millis
  /-- The projects the tool has loaded, by number. -/
  projects : List Project
  /-- The projects that were opened, by number, in order. -/
  opened : List Nat
  /-- The test cases of each test set, by number. -/
  contents : List (List TestCase)
  /-- The runs that were started, in order. -/
  runs : List RunRecord
  /-- The calls that were made, the last one first. -/
  calls : History
  /-- The requests to copy artifacts, in order. -/
  copies : List CopyRecord
  /-- The commands that were used to start the tool, in order. -/
  launches : List Command
  /-- The process that was started, if one was. -/
  process : Option Process
  /-- The lines of output that were forwarded, in order. -/
  lines : List OutputLine
  deriving Repr

namespace World

variable {σ : Type}

/-- The world at the beginning, with the given files and projects. -/
def initial (files : σ) (projects : List Project) (contents : List (List TestCase)) : World σ where
  files := files
  journal := []
  now := 0
  projects := projects
  opened := []
  contents := contents
  runs := []
  calls := []
  copies := []
  launches := []
  process := none
  lines := []

/-- A project by its number. -/
def project (w : World σ) (number : Nat) : Project := w.projects.getD number default

/-- A project is changed. -/
def updateProject (w : World σ) (number : Nat) (change : Project → Project) : World σ :=
  { w with projects := w.projects.modify number change }

/-- A configuration. -/
def configuration (w : World σ) (c : ConfigRef) : Configuration :=
  (w.project c.project.number).configurations.getD c.number default

/-- A configuration is changed. -/
def updateConfiguration (w : World σ) (c : ConfigRef) (change : Configuration → Configuration) :
    World σ :=
  w.updateProject c.project.number fun p =>
    { p with configurations := p.configurations.modify c.number change }

/-- The test cases of a test set. -/
def testCases (w : World σ) (set : TestSetRef) : List TestCase := w.contents.getD set.number []

/-- The reference to a project. -/
def projectRef (w : World σ) (number : Nat) : ProjectRef := ⟨number, (w.project number).file⟩

/-- The references to the configurations of a project. -/
def configRefs (w : World σ) (p : ProjectRef) : List ConfigRef :=
  (w.project p.number).configurations.mapIdx fun number c => ⟨p, number, c.name⟩

/-- What a run of a configuration would be started with. -/
def runRecord (w : World σ) (c : ConfigRef) : RunRecord :=
  let config := w.configuration c
  { config := config.name
    dataDir := config.dataDir
    reportDir := config.reportDir
    testSets := config.items.map fun set => set.map (·.name)
    testCases := config.items.map fun set =>
      (set.map fun s => (w.testCases s).map (·.name)).getD [] }

/-- The calls in the order they were made. -/
def trace (w : World σ) : List String := w.calls.reverse.map CallRecord.text

end World

end CaseRunner.Remote
