import CaseRunner.Config.Duration
import CaseRunner.FilePath
import CaseRunner.Connection.Command

/-!
# `CaseRunner.Config.Settings`: what the user configures

A configuration comes in two forms: as it is written (`Source`), with durations as text
and possibly no host, and as it is used (`Settings`), after it has been checked. The
settings give two views of themselves: how to get hold of the tool (`AcquireOptions`)
and what to run with it (`CaseRequest`).
-/

set_option autoImplicit false

namespace CaseRunner.Config

open CaseRunner.Connection (Platform)

/-- The variables of the environment by name. -/
abbrev Environment := List (String × String)

/-- The value of a variable. -/
def Environment.get? (env : Environment) (name : String) : Option String :=
  (env.find? (·.1 = name)).map (·.2)

/-- The part of a configuration about the tool, as written. -/
structure ToolSource where
  /-- The executables to try, in order. -/
  executables : List FilePath
  /-- The host of the registry, if given. -/
  host : Option String
  /-- The port of the registry, of 16 bits. -/
  port : Nat
  /-- The name under which the tool registers. -/
  bindingName : String
  /-- More arguments for the tool. -/
  arguments : List String
  /-- How long the tool may take to register. -/
  startupTimeout : String
  /-- How long the tool may take to get ready. -/
  readinessTimeout : String
  deriving DecidableEq, Repr

/-- The part of a configuration about the execution. -/
structure Execution where
  /-- The project file. -/
  project : FilePath
  /-- The name of the execution configuration. -/
  executionConfig : String
  /-- The name of the test case. -/
  testCase : String
  /-- The directory for test data. -/
  dataDir : FilePath
  /-- The directory for the report. -/
  reportDir : FilePath
  /-- The base name of the temporary test set. -/
  tempTestSet : String
  /-- Where artifacts are copied after the run, if anywhere. -/
  artifactDir : Option FilePath
  /-- Whether the project is closed after the run. -/
  closeProject : Bool
  deriving DecidableEq, Repr

/-- A configuration as written. -/
structure Source where
  /-- About the tool. -/
  tool : ToolSource
  /-- About the execution. -/
  execution : Execution
  deriving DecidableEq, Repr

/-- The part of a configuration about the tool, as used. -/
structure Tool where
  /-- The executables to try, in order. -/
  executables : List FilePath
  /-- The host of the registry. -/
  host : String
  /-- The port of the registry. -/
  port : Nat
  /-- The name under which the tool registers. -/
  bindingName : String
  /-- More arguments for the tool. -/
  arguments : List String
  /-- How long the tool may take to register. -/
  startupTimeout : Millis
  /-- How long the tool may take to get ready. -/
  readinessTimeout : Millis
  deriving DecidableEq, Repr

/-- A configuration as used. -/
structure Settings where
  /-- About the tool. -/
  tool : Tool
  /-- About the execution. -/
  execution : Execution
  deriving DecidableEq, Repr

/-! ### Defaults -/

/-- The port if none is given. -/
def defaultPort : Nat := 1099

/-- The name of the tool if none is given. -/
def defaultBindingName : String := "TptApi"

/-- The time to register if none is given. -/
def defaultStartupTimeout : String := "60s"

/-- The time to get ready if none is given. -/
def defaultReadinessTimeout : String := "10m"

/-- The base name of the temporary test set if none is given. -/
def defaultTempTestSet : String := "JENKINS Exec"

/-- The pause between two lookups or two questions whether the tool is ready. -/
def defaultPollInterval : Millis := 100

/-- The pause between two questions whether a run is over. -/
def defaultStatusInterval : Millis := 1000

/-- The host if none is given: the one the environment names, or the local one. -/
def defaultHost (env : Environment) : String :=
  match env.get? "HOSTNAME" with
  | some host => if Text.isBlankText host then "localhost" else host
  | none => "localhost"

/-- The configuration file if none is given. -/
def defaultConfigPath (env : Environment) : FilePath :=
  match env.get? "TPT_EXEC_CONFIG" with
  | some path => if path.isEmpty then "TptExec.toml" else path
  | none => "TptExec.toml"

/-! ### Views -/

/-- How long to wait for the tool to get ready, and how often to ask. -/
structure ReadinessOptions where
  /-- How long to wait. -/
  timeout : Millis
  /-- The pause between two questions. -/
  interval : Millis
  deriving DecidableEq, Repr

/-- Where to find the tool and how long to wait for it. -/
structure AcquireOptions where
  /-- The host of the registry. -/
  host : String
  /-- The port of the registry. -/
  port : Nat
  /-- The name under which the tool registers. -/
  binding : String
  /-- The executables to try, in order. -/
  executables : List FilePath
  /-- More arguments for the tool. -/
  arguments : List String
  /-- How long the tool may take to register. -/
  startupTimeout : Millis
  /-- The pause between two lookups. -/
  lookupInterval : Millis
  /-- How to wait for the tool to get ready. -/
  readiness : ReadinessOptions
  /-- The platform the tool is started on. -/
  platform : Platform
  deriving DecidableEq, Repr

/-- What to run, and where its output goes. -/
structure CaseRequest where
  /-- The name of the execution configuration. -/
  executionConfig : String
  /-- The name of the test case. -/
  testCase : String
  /-- The directory for test data. -/
  dataDir : FilePath
  /-- The directory for the report. -/
  reportDir : FilePath
  /-- The base name of the temporary test set. -/
  tempTestSet : String
  /-- The pause between two questions whether the run is over. -/
  statusInterval : Millis
  deriving DecidableEq, Repr

/-- How to get hold of the tool. -/
def Settings.acquireOptions (s : Settings) : AcquireOptions where
  host := s.tool.host
  port := s.tool.port
  binding := s.tool.bindingName
  executables := s.tool.executables
  arguments := s.tool.arguments
  startupTimeout := s.tool.startupTimeout
  lookupInterval := defaultPollInterval
  readiness := ⟨s.tool.readinessTimeout, defaultPollInterval⟩
  platform := .linux

/-- What to run. -/
def Settings.caseRequest (s : Settings) : CaseRequest where
  executionConfig := s.execution.executionConfig
  testCase := s.execution.testCase
  dataDir := s.execution.dataDir
  reportDir := s.execution.reportDir
  tempTestSet := s.execution.tempTestSet
  statusInterval := defaultStatusInterval

end CaseRunner.Config
