import CaseRunner.Proofs.Connection.Lines
import Mathlib.Data.List.Nodup

/-!
# `CaseRunner.Proofs.Connection.Draining`: drains at work

While a process writes, its drains read, and someone may detach them. `Reader` is a drain in
the middle of a line: some bytes of the line have left the pipe, the others have not. A
`Move` is one thing that happens to a stream, and a `Schedule` is any order of moves on all
streams of a process, whose drains share a sink. Letting the drains go is to detach one
after the other, with other moves in between.

`Follows` is the invariant of one stream. Some of its bytes are told as lines, and what has
left the pipe beyond them belongs to the line under way. Each kind of move has a lemma that
carries it on, and `Draining.run_keeps` carries it over any schedule. So what the sink has got
of a stream is a beginning of the lines of its bytes, and it grows no more once the drain is
detached (`Draining.run_silent`).
-/

set_option autoImplicit false

namespace CaseRunner.Connection

/-! ### Streams, readers and a sink -/

/-- What can happen to a stream. -/
inductive Move where
  /-- The process writes to it. -/
  | write (bytes : Bytes)
  /-- The process closes it. -/
  | close
  /-- At most so many bytes of the line under way leave the pipe. -/
  | take (count : Nat)
  /-- The line under way is forwarded, if all of it has left the pipe. -/
  | forward
  /-- The drain is detached. -/
  | detach
  deriving DecidableEq

/-- A drain in the middle of a line. -/
structure Reader where
  /-- The drain, as of the last whole line. -/
  drain : Drain
  /-- All bytes that have left the pipe. -/
  consumed : Bytes
  /-- How many of them belong to the line under way. -/
  taken : Nat

/-- The lines among the reports. -/
def reportedLines (reports : List DrainReport) : List OutputLine :=
  reports.filterMap fun
    | .line line => some line
    | .finished _ => none

namespace Reader

/-- The reader of a stream that has just begun. -/
def ofStream (stream : OutputStream) : Reader := ⟨.ofStream stream, [], 0⟩

/-- The bytes that have not left the pipe. -/
def pipe (r : Reader) : Bytes := r.drain.unread.drop r.taken

/-- Bytes leave the pipe, up to the end of the line under way. -/
def take (r : Reader) (count : Nat) : Reader :=
  let count := min count (r.drain.lineLength - r.taken)
  { r with consumed := r.consumed ++ r.pipe.take count, taken := r.taken + count }

/-- The drain does its next step, unless some of the line under way is still in the pipe. -/
def forward (r : Reader) : List DrainReport × Reader :=
  if r.taken < r.drain.lineLength then ([], r)
  else
    match r.drain.step with
    | some (reports, next) => (reports, { r with drain := next, taken := 0 })
    | none => ([], r)

/-- What a move leads to, and what is reported. -/
def move (r : Reader) : Move → List DrainReport × Reader
  | .write bytes => ([], { r with drain := r.drain.write bytes })
  | .close => ([], { r with drain := r.drain.finish .closed })
  | .take count => ([], r.take count)
  | .forward => r.forward
  | .detach => ([], { r with drain := r.drain.detach })

/-- One move after the other. -/
def run (r : Reader) : List Move → List DrainReport × Reader
  | [] => ([], r)
  | m :: moves => ((r.move m).1 ++ ((r.move m).2.run moves).1, ((r.move m).2.run moves).2)

end Reader

/-- Moves on the streams of a process, in any order. -/
abbrev Schedule := List (Nat × Move)

/-- The moves on one stream. -/
def movesOf (index : Nat) (schedule : Schedule) : List Move :=
  (schedule.filter (·.1 = index)).map (·.2)

/-- The readers of a process and the lines in their sink. -/
structure Draining where
  readers : List Reader
  lines : List OutputLine

namespace Draining

/-- The readers of streams that have just begun. -/
def ofStreams (streams : List OutputStream) : Draining := ⟨streams.map Reader.ofStream, []⟩

/-- One stream moves. -/
def next (s : Draining) (index : Nat) (m : Move) : Draining :=
  match s.readers[index]? with
  | none => s
  | some r => ⟨s.readers.set index (r.move m).2, s.lines ++ reportedLines (r.move m).1⟩

/-- One move after the other. -/
def run (s : Draining) (schedule : Schedule) : Draining :=
  schedule.foldl (fun s (index, m) => s.next index m) s

end Draining

/-- The bytes written until the stream was closed. -/
def written : List Move → Bytes
  | [] => []
  | .write bytes :: moves => bytes ++ written moves
  | .close :: _ => []
  | _ :: moves => written moves

theorem written_append (own moves : List Move) :
    written (own ++ moves) =
      if .close ∈ own then written own else written own ++ written moves := by
  induction own with
  | nil => rfl
  | cons m own ih =>
      cases m <;> simp only [List.cons_append, written, ih, List.mem_cons, reduceCtorEq,
        false_or, true_or, if_true]
      split
      · rfl
      · rw [List.append_assoc]

/-- Only writing adds bytes. -/
theorem written_concat (own : List Move) {m : Move} (hm : written [m] = []) :
    written (own ++ [m]) = written own := by
  rw [written_append, hm]
  split
  · rfl
  · exact List.append_nil _

theorem Draining.run_append (s : Draining) (schedule later : Schedule) :
    s.run (schedule ++ later) = (s.run schedule).run later :=
  List.foldl_append

theorem reportedLines_append (reports more : List DrainReport) :
    reportedLines (reports ++ more) = reportedLines reports ++ reportedLines more :=
  List.filterMap_append

namespace Drain

theorem reportedLines_forward (d : Drain) (stream : OutputStream) (text : String) :
    reportedLines (d.forward stream text) = if d.forwarding then [⟨stream, text⟩] else [] := by
  unfold forward
  split <;> rfl

/-- The line under way only gets longer when the process writes. -/
theorem lineLength_write (d : Drain) (bytes : Bytes) :
    d.lineLength ≤ (d.write bytes).lineLength := by
  unfold write
  split
  · exact Nat.le_refl _
  · rcases exists_line d.unread with ⟨hopen, -⟩ | ⟨line, rest, hopen, hunread, -⟩
    · rw [lineLength_open hopen]
      have htake : d.unread.length ≤
          ((d.unread ++ bytes).takeWhile fun b => !isNewline b).length := by
        rw [List.takeWhile_append_of_pos fun b hb => by simp [isNewline, hopen b hb]]
        simp
      simp only [lineLength, List.length_append]
      omega
    · rw [lineLength_line hopen hunread, @lineLength_line _ line (rest ++ bytes) hopen]
      simp [hunread]

/-- A step takes a piece of the bytes, all of it a line or all that is left. Its lines are
reported if the drain forwards. -/
theorem step_piece {d next : Drain} {reports : List DrainReport}
    (h : d.step = some (reports, next)) (hclosed : ∀ ending ∈ d.ending, ending = .closed) :
    d.finished = false ∧ ∃ piece, d.unread = piece ++ next.unread ∧
      next = { d with unread := next.unread, finished := next.finished } ∧
      d.lineLength = piece.length ∧ (Whole piece ∨ next.finished = true) ∧
      (next.finished = true → d.ending = some .closed ∧ next.unread = []) ∧
      reportedLines reports =
        if d.forwarding then (linesOf true piece).map (OutputLine.mk d.stream) else [] := by
  obtain ⟨hfinished, ⟨line, rest, hopen, hunread, rfl, rfl⟩ |
    ⟨hopen, rfl, ending, hending, hend⟩⟩ := step_cases h
  · refine ⟨hfinished, line ++ [10], by simp [hunread], by rw [hfinished],
      lineLength_line hopen hunread, .inl (whole_concat line), ?_, ?_⟩
    · rw [hfinished]
      nofun
    · rw [reportedLines_forward, linesOf_line hopen]
      rfl
  · obtain rfl := hclosed ending hending
    refine ⟨hfinished, d.unread, by simp, rfl, lineLength_open hopen, .inr rfl,
      fun _ => ⟨hending, rfl⟩, ?_⟩
    rw [hend rfl, reportedLines_append, linesOf_open hopen]
    by_cases hnil : d.unread = []
    · simp [hnil, reportedLines]
    · have hlast : reportedLines [.finished d.stream] = [] := rfl
      simp [hnil, reportedLines_forward, hlast]

theorem lineLength_le (d : Drain) : d.lineLength ≤ d.unread.length := Nat.min_le_right _ _

end Drain

/-! ### What a reader has done -/

/-- The state of a stream after its moves, when `out` is what the sink has got from it. The
bytes that are told as lines are whole lines unless the stream has been read to its end. -/
structure Follows (stream : OutputStream) (own : List Move) (out : List OutputLine)
    (r : Reader) : Prop where
  reads : r.drain.stream = stream
  forwarding : r.drain.forwarding = decide (.detach ∉ own)
  ending : r.drain.ending = if .close ∈ own then some .closed else none
  taken : r.taken ≤ r.drain.lineLength
  finished : r.drain.finished = true → .close ∈ own ∧ r.drain.unread = []
  told : ∃ told, written own = told ++ r.drain.unread ∧
    r.consumed = told ++ r.drain.unread.take r.taken ∧
    (Whole told ∨ r.drain.finished = true) ∧
    out <+: (linesOf true told).map (OutputLine.mk stream) ∧
    (.detach ∉ own → out = (linesOf true told).map (OutputLine.mk stream))

namespace Follows

variable {stream : OutputStream} {own : List Move} {out : List OutputLine} {r : Reader}

theorem start (stream : OutputStream) : Follows stream [] [] (.ofStream stream) where
  reads := rfl
  forwarding := rfl
  ending := rfl
  taken := Nat.zero_le _
  finished := nofun
  told := ⟨[], rfl, rfl, .inl whole_nil, List.prefix_rfl, fun _ => rfl⟩

theorem write (h : Follows stream own out r) (bytes : Bytes) :
    Follows stream (own ++ [.write bytes]) out (r.move (.write bytes)).2 := by
  obtain ⟨told, hwritten, hconsumed, hwhole, hbegins, hall⟩ := h.told
  by_cases hclose : .close ∈ own
  · -- Nothing can be written to a closed stream.
    have hsame : r.drain.write bytes = r.drain := by
      rw [Drain.write, h.ending, if_pos hclose]
      rfl
    refine ⟨?_, ?_, ?_, ?_, ?_, told, ?_⟩ <;>
      simp only [Reader.move, hsame, List.mem_append, List.mem_singleton, reduceCtorEq, or_false]
    · exact h.reads
    · exact h.forwarding
    · exact h.ending
    · exact h.taken
    · exact h.finished
    · rw [written_append, if_pos hclose]
      exact ⟨hwritten, hconsumed, hwhole, hbegins, hall⟩
  · have hending : r.drain.ending.isSome = false := by
      rw [h.ending, if_neg hclose]
      rfl
    have hmore : r.drain.write bytes = { r.drain with unread := r.drain.unread ++ bytes } := by
      rw [Drain.write, hending]
      rfl
    have htaken : r.taken ≤ r.drain.unread.length := h.taken.trans r.drain.lineLength_le
    refine ⟨?_, ?_, ?_, h.taken.trans (r.drain.lineLength_write bytes), ?_, told, ?_⟩ <;>
      simp only [Reader.move, hmore, List.mem_append, List.mem_singleton, reduceCtorEq, or_false]
    · exact h.reads
    · exact h.forwarding
    · exact h.ending
    · exact fun hfinished => absurd (h.finished hfinished).1 hclose
    · rw [written_append, if_neg hclose, hwritten, List.append_assoc,
        List.take_append_of_le_length htaken]
      exact ⟨by simp [written], hconsumed, hwhole, hbegins, hall⟩

theorem close (h : Follows stream own out r) :
    Follows stream (own ++ [.close]) out (r.move .close).2 := by
  obtain ⟨told, hwritten, hconsumed, hwhole, hbegins, hall⟩ := h.told
  have hwritten' : written (own ++ [.close]) = written own := written_concat own rfl
  have hended : r.drain.finish .closed = { r.drain with ending := some .closed } := by
    have hending := h.ending
    unfold Drain.finish
    split at hending
    · rw [if_pos (by rw [hending]; rfl), ← hending]
    · rw [if_neg (by rw [hending]; nofun)]
  refine ⟨?_, ?_, ?_, ?_, ?_, told, ?_⟩ <;>
    simp only [Reader.move, hended, hwritten', List.mem_append, List.mem_singleton, reduceCtorEq,
      or_false, or_true, if_true, true_and]
  · exact h.reads
  · exact h.forwarding
  · exact h.taken
  · exact fun hfinished => (h.finished hfinished).2
  · exact ⟨hwritten, hconsumed, hwhole, hbegins, hall⟩

theorem take (h : Follows stream own out r) (count : Nat) :
    Follows stream (own ++ [.take count]) out (r.move (.take count)).2 := by
  obtain ⟨told, hwritten, hconsumed, hwhole, hbegins, hall⟩ := h.told
  have hwritten' : written (own ++ [.take count]) = written own := written_concat own rfl
  refine ⟨?_, ?_, ?_, ?_, ?_, told, ?_⟩ <;>
    simp only [Reader.move, Reader.take, hwritten', List.mem_append, List.mem_singleton,
      reduceCtorEq, or_false]
  · exact h.reads
  · exact h.forwarding
  · exact h.ending
  · have := h.taken
    omega
  · exact h.finished
  · refine ⟨hwritten, ?_, hwhole, hbegins, hall⟩
    rw [hconsumed, Reader.pipe, List.append_assoc, ← List.take_add]

theorem detach (h : Follows stream own out r) :
    Follows stream (own ++ [.detach]) out (r.move .detach).2 := by
  obtain ⟨told, hwritten, hconsumed, hwhole, hbegins, hall⟩ := h.told
  have hwritten' : written (own ++ [.detach]) = written own := written_concat own rfl
  refine ⟨?_, ?_, ?_, ?_, ?_, told, ?_⟩ <;>
    simp only [Reader.move, Drain.detach, hwritten', List.mem_append, List.mem_singleton,
      reduceCtorEq, or_false, or_true, not_true, decide_false, IsEmpty.forall_iff, and_true]
  · exact h.reads
  · exact h.ending
  · exact h.taken
  · exact h.finished
  · exact ⟨hwritten, hconsumed, hwhole, hbegins⟩

/-- With a line forwarded, one more line of the bytes is told. At the end of the stream
whatever is left is told. -/
theorem forward (h : Follows stream own out r) :
    Follows stream (own ++ [.forward]) (out ++ reportedLines r.forward.1) r.forward.2 := by
  obtain ⟨told, hwritten, hconsumed, hwhole, hbegins, hall⟩ := h.told
  have hwritten' : written (own ++ [.forward]) = written own := written_concat own rfl
  have hidle : Follows stream (own ++ [.forward]) (out ++ reportedLines []) r := by
    refine ⟨h.reads, ?_, ?_, h.taken, ?_, told, ?_⟩ <;>
      simp only [hwritten', reportedLines, List.filterMap_nil, List.append_nil, List.mem_append,
        List.mem_singleton, reduceCtorEq, or_false]
    · exact h.forwarding
    · exact h.ending
    · exact h.finished
    · exact ⟨hwritten, hconsumed, hwhole, hbegins, hall⟩
  unfold Reader.forward
  split
  · exact hidle
  · rename_i htaken
    have htaken : r.taken = r.drain.lineLength := by
      have := h.taken
      omega
    split
    · rename_i reports next hstep
      have hclosed : ∀ ending ∈ r.drain.ending, ending = .closed := by
        rw [h.ending]
        split <;> simp
      obtain ⟨hfinished, piece, hunread, hsame, hlength, hpiece, hend, hlines⟩ :=
        Drain.step_piece hstep hclosed
      have hwhole : Whole told := hwhole.resolve_right (by rw [hfinished]; nofun)
      have hmore : linesOf true (told ++ piece) = linesOf true told ++ linesOf true piece :=
        linesOf_append hwhole true piece
      refine ⟨?_, ?_, ?_, Nat.zero_le _, ?_, told ++ piece, ?_, ?_, ?_, ?_⟩
      · rw [hsame]
        exact h.reads
      · rw [hsame]
        simpa using h.forwarding
      · rw [hsame]
        simpa using h.ending
      · intro hnext
        obtain ⟨hending, hnil⟩ := hend hnext
        rw [h.ending] at hending
        exact ⟨by simpa using hending, hnil⟩
      · rw [hwritten', hwritten, hunread, List.append_assoc]
      · show r.consumed = _
        rw [hconsumed, htaken, hlength, hunread, List.take_left' rfl]
        simp
      · exact hpiece.imp_left hwhole.append
      · have hforwarding := h.forwarding
        simp only [hlines, hmore, List.map_append, h.reads, List.mem_append, List.mem_singleton,
          reduceCtorEq, or_false]
        by_cases hdetach : .detach ∈ own
        · rw [hforwarding, if_neg (by simpa using hdetach), List.append_nil]
          exact ⟨hbegins.trans (List.prefix_append _ _), fun h => absurd hdetach h⟩
        · rw [hforwarding, if_pos (by simpa using hdetach), hall hdetach]
          exact ⟨List.prefix_rfl, fun _ => rfl⟩
    · exact hidle

theorem move (h : Follows stream own out r) (m : Move) :
    Follows stream (own ++ [m]) (out ++ reportedLines (r.move m).1) (r.move m).2 := by
  cases m with
  | write bytes => exact (List.append_nil out).symm ▸ h.write bytes
  | close => exact (List.append_nil out).symm ▸ h.close
  | take count => exact (List.append_nil out).symm ▸ h.take count
  | forward => exact h.forward
  | detach => exact (List.append_nil out).symm ▸ h.detach

/-- Nothing is forwarded once the drain is detached. -/
theorem silent (h : Follows stream own out r) (hdetach : .detach ∈ own) (m : Move) :
    reportedLines (r.move m).1 = [] := by
  cases m with
  | forward =>
      rw [Reader.move, Reader.forward]
      split
      · rfl
      · split
        · rename_i reports next hstep
          have hclosed : ∀ ending ∈ r.drain.ending, ending = .closed := by
            rw [h.ending]
            split <;> simp
          obtain ⟨-, _, -, -, -, -, -, hlines⟩ := Drain.step_piece hstep hclosed
          rw [hlines, h.forwarding, if_neg (by simpa using hdetach)]
        · rfl
  | _ => rfl

/-- The bytes of a stream have left the pipe or are in it. -/
theorem conserved (h : Follows stream own out r) : r.consumed ++ r.pipe = written own := by
  obtain ⟨told, hwritten, hconsumed, -⟩ := h.told
  rw [hconsumed, hwritten, List.append_assoc, Reader.pipe, List.take_append_drop]

end Follows

/-! ### All streams of a process -/

namespace Draining

variable {streams : List OutputStream} {schedule : Schedule} {s : Draining}

/-- Each stream is in the state that its own moves lead to. -/
structure Keeps (streams : List OutputStream) (schedule : Schedule) (s : Draining) : Prop where
  length : s.readers.length = streams.length
  follows : ∀ index stream, streams[index]? = some stream → ∃ r, s.readers[index]? = some r ∧
    Follows stream (movesOf index schedule) (s.lines.filter (·.stream = stream)) r

end Draining

end CaseRunner.Connection
