import CaseRunner.Config.Settings
import CaseRunner.Connection.Executable

/-!
# `CaseRunner.Connection.Plan`: what a session would do

The plan tells where the tool is looked for, which executables exist, how the tool would
be started and what would be run. Nothing is started.
-/

set_option autoImplicit false

namespace CaseRunner.Connection

open CaseRunner.Config (Settings Execution seconds)
open CaseRunner.Files (FileStore)
open FileAction

variable {σ : Type} [FileStore σ]

/-- How the tool would be started, or why it could not be. -/
def launchLine (settings : Settings) : FileAction σ String :=
  let options := settings.acquireOptions
  tryCatch (do
    let program ← selectExecutable options.executables
    let command := Command.ofTool program options.port options.binding options.arguments
      options.platform
    return s!"  launch: {command.display}")
  fun failure => return s!"  launch: not possible ({failure.message})"

/-- The lines about the tool. -/
def toolLines (settings : Settings) : List String :=
  let tool := settings.tool
  ["tpt-exec check", s!"  registry = {tool.host}:{tool.port}",
    s!"  binding_name = {tool.bindingName}",
    s!"  startup_timeout = {seconds tool.startupTimeout}s, "
      ++ s!"readiness_timeout = {seconds tool.readinessTimeout}s",
    ""]

/-- The lines about the executables. -/
def executableLines (files : σ) (executables : List FilePath) : List String :=
  s!"executables ({executables.length}):" :: executables.map fun path =>
    s!"  - {path.text} [" ++ (if FileStore.isFile files path then "found" else "missing") ++ "]"

/-- The lines about the execution. -/
def executionLines (e : Execution) : List String :=
  ["", "execution:", s!"  project: {e.project.text}", s!"  execution_config: {e.executionConfig}",
    s!"  test_case: {e.testCase}", s!"  data_dir: {e.dataDir.text}",
    s!"  report_dir: {e.reportDir.text}", s!"  temp_test_set: {e.tempTestSet}"]
    ++ (match e.artifactDir with
      | some dir => [s!"  artifact_dir: {dir.text}"]
      | none => [])
    ++ if e.closeProject then ["  close_project: true"] else []

/-- The lines of the plan. -/
def plan (settings : Settings) : FileAction σ (List String) := do
  let executables ← ask fun files => executableLines files settings.tool.executables
  let launch ← launchLine settings
  note .debug .top "check complete (nothing started)" []
  return toolLines settings ++ executables ++ [launch] ++ executionLines settings.execution

end CaseRunner.Connection
