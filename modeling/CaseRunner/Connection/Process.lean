import CaseRunner.Config.Duration
import CaseRunner.Connection.Drain

/-!
# `CaseRunner.Connection.Process`: a started process and its output in time

A process writes to its two streams at certain moments and then closes both. What it does
is known from its `OutputPlan`, with times since the start; a stream can be missing. A
`Process` has the drains of its streams and what it has yet to do.
-/

set_option autoImplicit false

namespace CaseRunner.Connection

open CaseRunner.Config (Millis)

/-- Output at a moment. -/
structure Output where
  /-- When it is written, counted from the start. -/
  time : Millis
  /-- Where it is written to. -/
  stream : OutputStream
  /-- What is written. -/
  bytes : Bytes
  deriving DecidableEq, Repr

/-- What a process does once it is started. -/
structure OutputPlan where
  /-- Its output, in order. -/
  output : List Output
  /-- Whether its ordinary output can be read. -/
  hasStdout : Bool
  /-- Whether its error output can be read. -/
  hasStderr : Bool
  deriving DecidableEq, Repr

/-- The plan of a process without output. -/
def OutputPlan.silent : OutputPlan := ⟨[], true, true⟩

/-- Something that happens to a drain. -/
inductive StreamEvent where
  /-- Bytes are written. -/
  | written (bytes : Bytes)
  /-- The stream ends. -/
  | ended
  deriving DecidableEq, Repr

/-- Something that happens at a moment. -/
structure Happening where
  /-- The moment. -/
  time : Millis
  /-- The stream it happens to. -/
  stream : OutputStream
  /-- What happens. -/
  event : StreamEvent
  deriving DecidableEq, Repr

/-- A started process. -/
structure Process where
  /-- The drains of its streams. -/
  drains : Drains
  /-- What is yet to happen, in order. -/
  ahead : List Happening
  deriving DecidableEq, Repr

namespace OutputPlan

/-- Output that comes no earlier than the output before it. -/
def inOrder (earliest : Millis) : List Output → List Output
  | [] => []
  | output :: rest =>
    let time := max earliest output.time
    { output with time := time } :: inOrder time rest

/-- What happens if the process is started at a moment. Both streams end after the last
output. -/
def happenings (plan : OutputPlan) (start : Millis) : List Happening :=
  let outputs := inOrder 0 plan.output
  let last := (outputs.getLast?.map (·.time)).getD 0
  (outputs.map fun o => ⟨start + o.time, o.stream, .written o.bytes⟩)
    ++ [⟨start + last, .stdout, .ended⟩, ⟨start + last, .stderr, .ended⟩]

/-- The streams that can be read. -/
def streams (plan : OutputPlan) : List OutputStream :=
  (if plan.hasStdout then [.stdout] else []) ++ (if plan.hasStderr then [.stderr] else [])

/-- The process started at a moment. -/
def start (plan : OutputPlan) (now : Millis) : Process :=
  ⟨plan.streams.map Drain.ofStream, plan.happenings now⟩

end OutputPlan

namespace Process

/-- Something happens to the drain of its stream, if there is one. -/
def happen (p : Process) (h : Happening) : List DrainReport × Process :=
  match p.drains.findIdx? fun d => d.stream = h.stream with
  | none => ([], p)
  | some index =>
    let (reports, drains) := p.drains.update index fun d =>
      match h.event with
      | .written bytes => d.write bytes
      | .ended => d.finish .closed
    (reports, { p with drains := drains })

/-- All that lies ahead up to a moment happens. -/
def advance (p : Process) (time : Millis) : List DrainReport × Process :=
  go p p.ahead
where
  /-- The list of what lies ahead is gone through. -/
  go (p : Process) : List Happening → List DrainReport × Process
    | [] => ([], { p with ahead := [] })
    | h :: rest =>
      if h.time ≤ time then
        let (reports, p) := p.happen h
        let (more, p) := go p rest
        (reports ++ more, p)
      else
        ([], { p with ahead := h :: rest })

/-- All drains are detached. -/
def detach (p : Process) : Process := { p with drains := p.drains.detachAll }

end Process

end CaseRunner.Connection
