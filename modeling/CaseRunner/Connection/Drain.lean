import CaseRunner.Journal.Entry
import CaseRunner.Text.Utf8

/-!
# `CaseRunner.Connection.Drain`: the output of a started process

The output of a process has to be read, or else the process comes to a halt. Each of its
two streams has a drain, which reads line after line until the stream ends. A drain
forwards the lines until it is detached; after that it reads on and forwards nothing.

A line ends with a newline, or with the end of the stream if anything is left. Carriage
returns and newlines at its end do not belong to it. If reading fails, what is left is
lost, and the failure is forwarded as a line of the error stream.

`step` reads one line, and `run` reads as long as there is something to read. Since each
step uses up bytes or finishes the drain, that comes to an end (`step_size`).
-/

set_option autoImplicit false

namespace CaseRunner.Connection

open CaseRunner.Journal (Entry)

/-- An output stream of a process. -/
inductive OutputStream where
  /-- The ordinary output. -/
  | stdout
  /-- The error output. -/
  | stderr
  deriving DecidableEq, Repr

/-- The name of a stream. -/
def OutputStream.name : OutputStream → String
  | .stdout => "stdout"
  | .stderr => "stderr"

/-- The name of a stream with a capital letter. -/
def OutputStream.title : OutputStream → String
  | .stdout => "Stdout"
  | .stderr => "Stderr"

/-- A line of output. -/
structure OutputLine where
  /-- The stream it belongs to. -/
  stream : OutputStream
  /-- The text. -/
  text : String
  deriving DecidableEq, Repr

/-- The line as an entry of the journal: the error stream at the highest severity. -/
def OutputLine.entry (line : OutputLine) : Entry :=
  ⟨match line.stream with | .stdout => .info | .stderr => .error, .drain, line.text, []⟩

/-- How a stream ends. -/
inductive StreamEnd where
  /-- The process closed it. -/
  | closed
  /-- Reading fails. -/
  | failed (text : String)
  deriving DecidableEq, Repr

/-- What a drain reports. -/
inductive DrainReport where
  /-- A line is forwarded. -/
  | line (line : OutputLine)
  /-- The stream has ended. -/
  | finished (stream : OutputStream)
  deriving DecidableEq, Repr

/-- The reader of one stream. -/
structure Drain where
  /-- The stream. -/
  stream : OutputStream
  /-- The bytes written to the stream that have not been read as lines. -/
  unread : Bytes
  /-- How the stream ends, once it does. -/
  ending : Option StreamEnd
  /-- Whether lines are forwarded. -/
  forwarding : Bool
  /-- Whether the stream has been read to its end. -/
  finished : Bool
  deriving DecidableEq, Repr

namespace Drain

/-- The drain of a stream that has just begun. -/
def ofStream (stream : OutputStream) : Drain := ⟨stream, [], none, true, false⟩

/-- More bytes are written to the stream, which must not have ended. -/
def write (d : Drain) (bytes : Bytes) : Drain :=
  if d.ending.isSome then d else { d with unread := d.unread ++ bytes }

/-- The stream ends; only the first end counts. -/
def finish (d : Drain) (ending : StreamEnd) : Drain :=
  if d.ending.isSome then d else { d with ending := some ending }

/-- Lines are no longer forwarded. -/
def detach (d : Drain) : Drain := { d with forwarding := false }

/-- Whether the byte ends a line. -/
def isNewline (b : UInt8) : Bool := b = 10

/-- The text of a line without the carriage returns and newlines at its end. -/
def lineText (bytes : Bytes) : String :=
  String.ofList ((Text.decodeLossy bytes).reverse.dropWhile fun c => c = '\n' || c = '\r').reverse

/-- A line of the given stream, if lines are forwarded. -/
def forward (d : Drain) (stream : OutputStream) (text : String) : List DrainReport :=
  if d.forwarding then [.line ⟨stream, text⟩] else []

/-- The end of the drain, after `reports`. -/
def stop (d : Drain) (reports : List DrainReport) : List DrainReport × Drain :=
  (reports ++ [.finished d.stream], { d with unread := [], finished := true })

/-- What a drain does next: it reads a line, or comes to its end, or waits. -/
def step (d : Drain) : Option (List DrainReport × Drain) :=
  if d.finished then none
  else
    let line := d.unread.takeWhile fun b => !isNewline b
    match d.unread.dropWhile fun b => !isNewline b with
    | newline :: rest =>
      some (d.forward d.stream (lineText (line ++ [newline])), { d with unread := rest })
    | [] =>
      match d.ending with
      | none => none
      | some .closed =>
        if line = [] then some (d.stop [])
        else some (d.stop (d.forward d.stream (lineText line)))
      | some (.failed text) =>
        some (d.stop (d.forward .stderr s!"error reading TPT process {d.stream.name}: {text}"))

/-- What is left to do: the bytes, and the end. -/
def size (d : Drain) : Nat := d.unread.length + if d.finished then 0 else 1

/-- A step leaves less to do. -/
theorem step_size {d next : Drain} {reports : List DrainReport}
    (h : d.step = some (reports, next)) : next.size < d.size := by
  unfold step at h
  split at h
  · simp at h
  · rename_i hfinished
    have hlength : (d.unread.dropWhile fun b => !isNewline b).length ≤ d.unread.length :=
      (List.dropWhile_sublist _).length_le
    rcases hrest : d.unread.dropWhile (fun b => !isNewline b) with _ | ⟨newline, rest⟩
    · simp only [hrest] at h
      rcases hend : d.ending with _ | (_ | text)
      · simp [hend] at h
      · simp only [hend] at h
        split at h <;>
        · simp only [stop, Option.some.injEq, Prod.mk.injEq] at h
          simp [size, ← h.2, hfinished]
      · simp only [hend, stop, Option.some.injEq, Prod.mk.injEq] at h
        simp [size, ← h.2, hfinished]
    · simp only [hrest, Option.some.injEq, Prod.mk.injEq] at h
      rw [hrest] at hlength
      simp only [List.length_cons] at hlength
      simp only [size, ← h.2, hfinished]
      omega

/-- What a drain does as long as there is something to read. -/
def run (d : Drain) : List DrainReport × Drain :=
  match _h : d.step with
  | none => ([], d)
  | some (reports, next) =>
    let (more, last) := next.run
    (reports ++ more, last)
termination_by d.size
decreasing_by exact step_size _h

/-- The drain as it is shown. -/
def shown (d : Drain) : String :=
  "OutputDrain \x7b stream: " ++ d.stream.title ++ s!", forwarding: {d.forwarding}"
    ++ s!", finished: {d.finished} \x7d"

end Drain

/-- The journal entry for the end of a stream. -/
def streamClosed (stream : OutputStream) : Entry :=
  ⟨.debug, .drain, "TPT output stream closed", [("stream", stream.name)]⟩

/-- The journal entry for drains that have been detached. -/
def outputStopped : Entry := ⟨.info, .drain, "logging output of TPT process stopped", []⟩

/-- The drains of a process. -/
abbrev Drains := List Drain

namespace Drains

/-- One of the drains is changed, and runs as long as there is something to read. -/
def update (drains : Drains) (index : Nat) (change : Drain → Drain) :
    List DrainReport × Drains :=
  match drains[index]? with
  | none => ([], drains)
  | some d =>
    let (reports, d) := (change d).run
    (reports, drains.set index d)

/-- All drains are detached. -/
def detachAll (drains : Drains) : Drains := drains.map Drain.detach

/-- What detaching all drains notes. -/
def detachEntries (drains : Drains) : List Entry := if drains.isEmpty then [] else [outputStopped]

end Drains

/-- What happens to the output of a process. -/
inductive OutputEvent where
  /-- Bytes are written to the stream of a drain. -/
  | written (index : Nat) (bytes : Bytes)
  /-- The stream of a drain ends. -/
  | ended (index : Nat) (ending : StreamEnd)
  /-- One drain is detached. -/
  | detached (index : Nat)
  /-- The drains are let go. -/
  | released
  deriving DecidableEq, Repr

/-- The drains of a process and whether someone holds them. Whoever holds them can detach
one; all are detached when they are let go. -/
structure HeldDrains where
  /-- The drains. -/
  drains : Drains
  /-- Whether they are held. -/
  held : Bool
  deriving DecidableEq, Repr

namespace HeldDrains

/-- The drains of streams that have just begun. -/
def ofStreams (streams : List OutputStream) : HeldDrains := ⟨streams.map Drain.ofStream, true⟩

/-- The drains are let go, which is noted once. -/
def release (h : HeldDrains) : List Entry × HeldDrains :=
  (if h.held then h.drains.detachEntries else [], ⟨h.drains.detachAll, false⟩)

/-- One drain is changed, and runs as long as there is something to read. -/
def update (h : HeldDrains) (index : Nat) (change : Drain → Drain) :
    List DrainReport × HeldDrains :=
  let (reports, drains) := h.drains.update index change
  (reports, { h with drains := drains })

/-- What an event leads to: what is noted, and what the drains report. -/
def next (h : HeldDrains) : OutputEvent → List Entry × List DrainReport × HeldDrains
  | .written index bytes => ([], h.update index (·.write bytes))
  | .ended index ending => ([], h.update index (·.finish ending))
  | .detached index => ([], if h.held then h.update index (·.detach) else ([], h))
  | .released =>
    let (entries, h) := h.release
    (entries, [], h)

end HeldDrains

end CaseRunner.Connection
