import CaseRunner.Config.Settings
import CaseRunner.Failure

/-!
# `CaseRunner.Config.Check`: the rules a configuration obeys

A configuration as written is used only if it obeys every rule. The rules have an order,
and a configuration that breaks several is refused for the first: those about the tool,
then those about the execution, then the durations.
-/

set_option autoImplicit false

namespace CaseRunner.Config

open CaseRunner.Text (isBlankText)

/-- The rule that a configuration breaks. -/
inductive ConfigFault where
  /-- There is no executable to try. -/
  | noExecutable
  /-- The port is zero. -/
  | zeroPort
  /-- The name of the tool is blank. -/
  | blankBindingName
  /-- A host is given and blank. -/
  | blankHost
  /-- A field about the execution is empty or blank. -/
  | emptyField (field : String)
  /-- Both directories are the same. -/
  | sameDirectories (dataDir : FilePath)
  /-- Both directories would be copied to the same place. -/
  | sameFinalNames (dataDir reportDir : FilePath)
  /-- The time to register is no duration. -/
  | badStartupTimeout (fault : DurationFault)
  /-- The time to get ready is no duration. -/
  | badReadinessTimeout (fault : DurationFault)
  deriving DecidableEq, Repr

/-- What the broken rule says. -/
def ConfigFault.message : ConfigFault → String
  | .noExecutable => "[tool].executables must list at least one TPT executable"
  | .zeroPort => "[tool].port must be >= 1 (got 0)"
  | .blankBindingName => "[tool].binding_name must not be empty"
  | .blankHost => "[tool].host must not be empty when given"
  | .emptyField field => s!"[execution].{field} must not be empty"
  | .sameDirectories dataDir =>
    s!"[execution].data_dir and report_dir must differ (both {dataDir.shown})"
  | .sameFinalNames dataDir reportDir =>
    "[execution].data_dir and report_dir need distinct final names when artifact_dir is set "
      ++ s!"(got {dataDir.shown} and {reportDir.shown})"
  | .badStartupTimeout fault => s!"[tool].startup_timeout: {fault.message}"
  | .badReadinessTimeout fault => s!"[tool].readiness_timeout: {fault.message}"

/-- The failure for a broken rule. -/
def ConfigFault.failure (fault : ConfigFault) : Failure := .badConfiguration fault.message

/-- The first rule about the tool that is broken. -/
def ToolSource.fault? (tool : ToolSource) : Option ConfigFault :=
  if tool.executables.isEmpty then some .noExecutable
  else if tool.port = 0 then some .zeroPort
  else if isBlankText tool.bindingName then some .blankBindingName
  else if tool.host.any isBlankText then some .blankHost
  else none

/-- The first rule about the execution that is broken. -/
def Execution.fault? (e : Execution) : Option ConfigFault :=
  if e.project.isEmpty then some (.emptyField "project")
  else if isBlankText e.executionConfig then some (.emptyField "execution_config")
  else if isBlankText e.testCase then some (.emptyField "test_case")
  else if e.dataDir.isEmpty then some (.emptyField "data_dir")
  else if e.reportDir.isEmpty then some (.emptyField "report_dir")
  else if isBlankText e.tempTestSet then some (.emptyField "temp_test_set")
  else if e.dataDir.same e.reportDir then some (.sameDirectories e.dataDir)
  else if e.artifactDir.isSome && e.dataDir.fileName = e.reportDir.fileName then
    some (.sameFinalNames e.dataDir e.reportDir)
  else none

/-- The settings of a configuration that obeys the rules. -/
def Source.check (env : Environment) (s : Source) : Except ConfigFault Settings :=
  match s.tool.fault?, s.execution.fault? with
  | some fault, _ => .error fault
  | none, some fault => .error fault
  | none, none => do
    let startup ← (readDuration s.tool.startupTimeout).mapError .badStartupTimeout
    let readiness ← (readDuration s.tool.readinessTimeout).mapError .badReadinessTimeout
    return {
      tool := {
        executables := s.tool.executables
        host := s.tool.host.getD (defaultHost env)
        port := s.tool.port
        bindingName := s.tool.bindingName
        arguments := s.tool.arguments
        startupTimeout := startup
        readinessTimeout := readiness }
      execution := s.execution }

end CaseRunner.Config
