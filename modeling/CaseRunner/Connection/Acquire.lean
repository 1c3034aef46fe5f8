import CaseRunner.Connection.Executable
import CaseRunner.Connection.Readiness

/-!
# `CaseRunner.Connection.Acquire`: getting hold of the tool

The tool is looked up in the registry. If it is not there, it is started, at most once,
and looked up at intervals until it has registered. In both cases it is then waited for
until it is ready.

While a tool that was started is waited for, its output is forwarded. The forwarding
stops when the waiting ends, however it ends (`withOutput`).
-/

set_option autoImplicit false

namespace CaseRunner.Connection

open CaseRunner.Config (AcquireOptions Millis seconds)
open CaseRunner.Files (FileStore)
open CaseRunner.Remote
open CaseRunner.Remote.Action

variable {σ : Type}

/-- Looks the tool up as the options say. -/
def lookupTool (options : AcquireOptions) : Action σ Failure (Except LookupFault ToolRef) :=
  attempt (lookup options.host options.port options.binding)

/-- Looks the tool up at intervals until it is found or the deadline has come. -/
def awaitRegistration (options : AcquireOptions) (deadline : Option Millis) :
    Nat → Action σ Failure ToolRef
  | 0 => unfinished
  | rounds + 1 => do
    match ← lookupTool options with
    | .ok tool => do
      note .debug .acquire "TPT registered with the registry" []
      return tool
    | .error fault => do
      if ← isOver deadline then
        note .error .acquire "timeout: could not connect to TPT API"
          [("host", options.host), ("port", toString options.port),
            ("binding", options.binding),
            ("startup_timeout_s", toString (seconds options.startupTimeout)),
            ("last_error", fault.message)]
        throw (.startupTimeout options.host options.port options.binding options.startupTimeout)
      pause options.lookupInterval "waiting for TPT to start"
      awaitRegistration options deadline rounds

/-- Starts a process, and begins to read its output. -/
def launch (command : Command) : Action σ Failure Unit := do
  modify fun w => { w with launches := w.launches ++ [command] }
  match (← read).launch command with
  | .error failure =>
    note .error .acquire "could not start TPT"
      [("path", command.program.text), ("error", failure.message)]
    throw failure
  | .ok plan =>
    if !plan.hasStdout then note .warning .acquire "TPT process has no stdout pipe" []
    if !plan.hasStderr then note .warning .acquire "TPT process has no stderr pipe" []
    modify fun w => { w with process := some (plan.start w.now) }

/-- The output of the process is no longer forwarded. -/
def detachOutput : Action σ Failure Unit :=
  modify fun w =>
    match w.process with
    | none => w
    | some process =>
      let entries := process.drains.detachEntries
      let workspace := entries.foldl Workspace.note w.toWorkspace
      { w with process := some process.detach, toWorkspace := workspace }

/-- An activity during which output is forwarded, and after which it no longer is. -/
def withOutput {α : Type} (x : Action σ Failure α) : Action σ Failure α := do
  let result ← attempt x
  detachOutput
  match result with
  | .ok a => return a
  | .error (failure : Failure) => throw failure

/-- Waits until a tool that was found is ready for use. -/
def readyTool (options : AcquireOptions) (tool : ToolRef) : Action σ Failure ToolRef := do
  waitUntilReady options.readiness tool
  noteVersion tool
  return tool

section
variable [FileStore σ]

/-- Starts the tool and waits until it has registered. -/
def startTool (options : AcquireOptions) : Action σ Failure ToolRef := do
  let executable ← ofFiles (selectExecutable options.executables)
  let command := Command.ofTool executable options.port options.binding options.arguments
    options.platform
  note .info .acquire "starting TPT" [("command", command.display)]
  note .info .acquire "waiting for TPT to start"
    [("startup_timeout_s", toString (seconds options.startupTimeout))]
  launch command
  withOutput do
    let deadline := momentAfter (← get).now options.startupTimeout
    awaitRegistration options deadline (← read).patience

/-- Finds the tool in the registry, or else starts it. -/
def findTool (options : AcquireOptions) : Action σ Failure ToolRef := do
  note .info .acquire "trying to connect to TPT"
    [("host", options.host), ("port", toString options.port)]
  note .info .acquire "TPT binding name" [("binding", options.binding)]
  match ← lookupTool options with
  | .ok tool => do
    note .info .acquire "found a running TPT instance" []
    return tool
  | .error fault => do
    note .info .acquire "TPT is not running with the needed settings" [("error", fault.message)]
    startTool options

/-- Gets hold of the tool, ready for use. -/
def acquire (options : AcquireOptions) : Action σ Failure ToolRef := do
  let tool ← findTool options
  readyTool options tool

end

end CaseRunner.Connection
