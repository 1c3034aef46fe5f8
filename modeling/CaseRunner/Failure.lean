import CaseRunner.Config.Duration
import CaseRunner.FilePath
import CaseRunner.Remote.Fault

/-!
# `CaseRunner.Failure`: why an activity of the program failed

Every activity that can fail does so with one of these causes. The wording is in one
place, `Failure.message`; a failure that passes on the cause of another part also has
the `chain` of what was being done when it arose.
-/

set_option autoImplicit false

namespace CaseRunner

open CaseRunner.Config (Millis seconds)

/-- Why an activity failed. -/
inductive Failure where
  /-- None of the executables exists. -/
  | executableNotFound (tried : List FilePath)
  /-- The tool was started and did not register in time. -/
  | startupTimeout (host : String) (port : Nat) (binding : String) (waited : Millis)
  /-- The tool did not get ready in time. -/
  | readinessTimeout (waited : Millis)
  /-- The user interrupted the program. -/
  | interrupted (activity : String)
  /-- The project has no execution configuration of the name. -/
  | configurationNotFound (name : String)
  /-- The project has no test case of the name. -/
  | caseNotFound (name : String)
  /-- The tool could not open the project. -/
  | projectNotOpened (path : FilePath) (logs : List String)
  /-- A remote call failed. -/
  | remote (fault : Remote.RemoteFault)
  /-- A result artifact is malformed. -/
  | malformedArtifact (text : String)
  /-- The configuration breaks a rule. -/
  | badConfiguration (text : String)
  /-- A file could not be read, or a program not be run. -/
  | inputOutput (text : String)
  /-- The configuration file is no configuration; the text says more where it is known. -/
  | unreadableConfiguration (text : Option String)
  /-- Another failure: what was being done, the outermost first, and its cause. -/
  | other (chain : List String)
  deriving DecidableEq, Repr

namespace Failure

/-- The paths that were tried, as a failure lists them. -/
def triedPaths : List FilePath → String
  | [] => "<none configured>"
  | tried => ", ".intercalate (tried.map FilePath.text)

/-- What the failure is called. -/
def message : Failure → String
  | executableNotFound tried => s!"TPT executable not found (tried: {triedPaths tried})"
  | startupTimeout host port binding waited =>
    s!"TPT did not register at {host}:{port} as '{binding}' within {seconds waited}s"
  | readinessTimeout waited => s!"TPT API did not become ready within {seconds waited}s"
  | interrupted activity => s!"interrupted while {activity}"
  | configurationNotFound name => s!"execution configuration not found: {name}"
  | caseNotFound name => s!"test case not found: {name}"
  | projectNotOpened path logs => s!"could not open project {path.text}: " ++ "; ".intercalate logs
  | remote fault => s!"remote communication fault: {fault.message}"
  | malformedArtifact text => s!"malformed result artifact: {text}"
  | badConfiguration text => s!"Configuration error: {text}"
  | inputOutput text => s!"IO error: {text}"
  | unreadableConfiguration text => "TOML parsing error: " ++ text.getD ""
  | other chain => chain.headD ""

/-- The failure with its causes: what was being done, each time followed by why. -/
def chainMessage : Failure → String
  | other chain => ": ".intercalate chain
  | failure => failure.message

/-- Whether the user is the cause. -/
def isInterruption : Failure → Bool
  | interrupted _ => true
  | _ => false

end Failure

end CaseRunner
