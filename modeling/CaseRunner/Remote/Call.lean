import CaseRunner.Remote.Fault
import CaseRunner.Remote.Object

/-!
# `CaseRunner.Remote.Call`: the calls to the registry and the tool

Every request that the program can send is a value. A call is shown as the object it goes
to, the method and the arguments, such as `config[EC1].set_data_dir(/out)`. What comes
before the arguments is the call's `point`; without the name of the object it is the
call's `generalPoint`.
-/

set_option autoImplicit false

namespace CaseRunner.Remote

/-- A request to the registry or to the tool. -/
inductive Call where
  /-- Looks the tool up. -/
  | lookup (host : String) (port : Nat) (binding : String)
  /-- Asks whether a tool is ready. -/
  | isReady (tool : ToolRef)
  /-- Asks for the version of a tool. -/
  | version (tool : ToolRef)
  /-- Opens a project. -/
  | openProject (path : FilePath)
  /-- Asks for the open projects. -/
  | openProjects
  /-- Starts a run. -/
  | run (config : ConfigRef)
  /-- Asks for the file of a project. -/
  | file (project : ProjectRef)
  /-- Asks for the execution configurations of a project. -/
  | configurations (project : ProjectRef)
  /-- Asks for the top of the tree of test cases. -/
  | topLevel (project : ProjectRef)
  /-- Asks for the test sets of a project. -/
  | testSets (project : ProjectRef)
  /-- Creates a test set. -/
  | createTestSet (project : ProjectRef) (name : String)
  /-- Deletes a test set. -/
  | deleteTestSet (project : ProjectRef) (set : TestSetRef)
  /-- Closes a project. -/
  | close (project : ProjectRef)
  /-- Asks for the name of a configuration. -/
  | configName (config : ConfigRef)
  /-- Asks for the items of a configuration. -/
  | items (config : ConfigRef)
  /-- Asks for the data directory of a configuration. -/
  | dataDir (config : ConfigRef)
  /-- Asks for the report directory of a configuration. -/
  | reportDir (config : ConfigRef)
  /-- Sets the data directory of a configuration. -/
  | setDataDir (config : ConfigRef) (path : String)
  /-- Sets the report directory of a configuration. -/
  | setReportDir (config : ConfigRef) (path : String)
  /-- Asks for the test set of an item. -/
  | testSet (item : ItemRef)
  /-- Sets the test set of an item, or takes it away. -/
  | setTestSet (item : ItemRef) (set : Option TestSetRef)
  /-- Asks for the name of a test set. -/
  | setName (set : TestSetRef)
  /-- Adds a test case to a test set. -/
  | addTestCase (set : TestSetRef) (testCase : TestCase)
  /-- Asks for the name of a group. -/
  | groupName (group : GroupRef)
  /-- Asks for the children of a group. -/
  | groupItems (group : GroupRef)
  /-- Asks for the name of a test case. -/
  | caseName (testCase : TestCase)
  /-- Asks whether a run is running. -/
  | isRunning (run : Nat)
  /-- Asks whether a run is pending. -/
  | isPending (run : Nat)
  /-- Cancels a run. -/
  | cancel (run : Nat)
  deriving DecidableEq, Repr

namespace Call

/-- The kind of object that the call goes to. -/
def kind : Call → String
  | lookup .. => "registry"
  | isReady _ | version _ | openProject _ | openProjects | run _ => "tool"
  | file _ | configurations _ | topLevel _ | testSets _ | createTestSet .. | deleteTestSet ..
  | close _ => "project"
  | configName _ | items _ | dataDir _ | reportDir _ | setDataDir .. | setReportDir .. => "config"
  | testSet _ | setTestSet .. => "item"
  | setName _ | addTestCase .. => "set"
  | groupName _ | groupItems _ => "group"
  | caseName _ => "scenario"
  | isRunning _ | isPending _ | cancel _ => "status"

/-- What the object that the call goes to is called; empty if it has no name. -/
def label : Call → String
  | file p | configurations p | topLevel p | testSets p | createTestSet p _ | deleteTestSet p _
  | close p => (p.file.map FilePath.text).getD ""
  | configName c | items c | dataDir c | reportDir c | setDataDir c _ | setReportDir c _ => c.name
  | testSet i | setTestSet i _ => s!"{i.config.name}/{i.index}"
  | setName s | addTestCase s _ => s.name
  | groupName g | groupItems g => g.name
  | caseName c => c.name
  | _ => ""

/-- What the call asks for. -/
def method : Call → String
  | lookup .. => "lookup"
  | isReady _ => "is_ready"
  | version _ => "version"
  | openProject _ => "open_project"
  | openProjects => "open_projects"
  | run _ => "run"
  | file _ => "file"
  | configurations _ => "execution_configurations"
  | topLevel _ => "top_level_scenarios"
  | testSets _ => "test_sets"
  | createTestSet .. => "create_test_set"
  | deleteTestSet .. => "delete_test_set"
  | close _ => "close"
  | configName _ | setName _ | groupName _ | caseName _ => "name"
  | items _ | groupItems _ => "items"
  | dataDir _ => "data_dir"
  | reportDir _ => "report_dir"
  | setDataDir .. => "set_data_dir"
  | setReportDir .. => "set_report_dir"
  | testSet _ => "test_set"
  | setTestSet .. => "set_test_set"
  | addTestCase .. => "add_test_case"
  | isRunning _ => "is_running"
  | isPending _ => "is_pending"
  | cancel _ => "cancel"

/-- The arguments of the call. -/
def arguments : Call → String
  | lookup host port binding => s!"{host}:{port}/{binding}"
  | openProject path => path.text
  | run config => config.name
  | createTestSet _ name => name
  | deleteTestSet _ set => set.name
  | setDataDir _ path | setReportDir _ path => path
  | setTestSet _ (some set) => set.name
  | setTestSet _ none => "<none>"
  | addTestCase _ testCase => s!"{testCase.name}#{testCase.id}"
  | _ => ""

/-- The object and the method. -/
def point (call : Call) : String :=
  if call.label.isEmpty then s!"{call.kind}.{call.method}"
  else s!"{call.kind}[{call.label}].{call.method}"

/-- The kind of object and the method. -/
def generalPoint (call : Call) : String := s!"{call.kind}.{call.method}"

/-- The whole call. -/
def text (call : Call) : String := s!"{call.point}({call.arguments})"

end Call

/-- What becomes of a call. -/
inductive Verdict where
  /-- The tool does what it is asked. -/
  | granted
  /-- The call does not reach the tool. -/
  | lost (fault : RemoteFault)
  /-- The tool refuses, and changes nothing. -/
  | refused (fault : RemoteFault)
  deriving DecidableEq, Repr

/-- Whether the call reached the tool. -/
def Verdict.reached : Verdict → Bool
  | .lost _ => false
  | _ => true

/-- A call that was made. -/
structure CallRecord where
  /-- The call. -/
  call : Call
  /-- What became of it. -/
  verdict : Verdict
  deriving DecidableEq, Repr

/-- The call, marked if it did not reach the tool. -/
def CallRecord.text (record : CallRecord) : String :=
  if record.verdict.reached then record.call.text else s!"{record.call.text} FAIL"

/-- The calls that were made, the last one first. -/
abbrev History := List CallRecord

/-- How many calls reached the tool that are of the given sort. -/
def History.countReached (history : History) (sort : Call → Bool) : Nat :=
  history.countP fun record => record.verdict.reached && sort record.call

end CaseRunner.Remote
