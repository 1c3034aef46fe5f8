import CaseRunner.Config.Settings
import CaseRunner.Remote.Tool

/-!
# `CaseRunner.Connection.Readiness`: waiting for the tool to get ready

A tool that can be reached is asked at intervals whether it is ready. A call that fails
counts as "no". The tool is asked once even if there is no time to wait at all; time is
up when the answer is "no" at or after the deadline.
-/

set_option autoImplicit false

namespace CaseRunner.Connection

open CaseRunner.Config (ReadinessOptions Millis seconds)
open CaseRunner.Remote
open CaseRunner.Remote.Action

variable {σ : Type}

/-- Asks once whether the tool is ready. -/
def probe (tool : ToolRef) : Action σ Failure Bool := do
  match ← attempt (isReady tool) with
  | .ok ready => return ready
  | .error (fault : RemoteFault) =>
    note .debug .readiness "readiness probe failed; retrying" [("error", fault.message)]
    return false

/-- Whether a deadline, if there is one, has come. -/
def isOver (deadline : Option Millis) : Action σ Failure Bool := do
  let now := (← get).now
  return deadline.any (· ≤ now)

/-- Asks at intervals until the tool is ready or the deadline has come. -/
def awaitReady (tool : ToolRef) (options : ReadinessOptions) (deadline : Option Millis) :
    Nat → Action σ Failure Unit
  | 0 => unfinished
  | rounds + 1 => do
    if ← isOver deadline then
      note .error .readiness "timeout: TPT API did not become ready"
        [("timeout_s", toString (seconds options.timeout))]
      throw (.readinessTimeout options.timeout)
    pause options.interval "waiting for TPT to become ready"
    if ← probe tool then return () else awaitReady tool options deadline rounds

/-- Waits until the tool is ready. -/
def waitUntilReady (options : ReadinessOptions) (tool : ToolRef := default) :
    Action σ Failure Unit := do
  if ← probe tool then return ()
  note .info .readiness "waiting for TPT to become ready..." []
  awaitReady tool options (momentAfter (← get).now options.timeout) (← read).patience

/-- Notes the version of the tool. -/
def noteVersion (tool : ToolRef := default) : Action σ Failure Unit := do
  match ← attempt (version tool) with
  | .ok version => note .info .readiness "connected to TPT" [("version", version)]
  | .error (fault : RemoteFault) =>
    note .warning .readiness "connected to TPT, but could not query its version"
      [("error", fault.message)]

end CaseRunner.Connection
