import CaseRunner.Proofs.Remote.Course
import CaseRunner.Proofs.Remote.Ending

/-!
# `CaseRunner.Proofs.Connection.Output`: the output of a process while time passes

Whatever happens to a process as time passes, each of its drains keeps to its stream and
goes on forwarding or not (`World.outputs_advance`). Lines are collected or noted only if a
drain forwards, so time that passes adds no line once all are detached
(`World.lines_advance`).
-/

set_option autoImplicit false

namespace CaseRunner.Connection

open CaseRunner.Config (Millis)

/-- No line is among the reports. -/
def Silent (reports : List DrainReport) : Prop := ∀ line, DrainReport.line line ∉ reports

theorem silent_nil : Silent [] := fun _ => List.not_mem_nil

theorem silent_append {reports more : List DrainReport} :
    Silent (reports ++ more) ↔ Silent reports ∧ Silent more := by
  simp only [Silent, List.mem_append, not_or]
  exact forall_and

namespace Drain

/-- The stream that a drain reads, and whether it forwards the lines. -/
def mark (d : Drain) : OutputStream × Bool := (d.stream, d.forwarding)

theorem mark_write (d : Drain) (bytes : Bytes) : (d.write bytes).mark = d.mark := by
  unfold write
  split <;> rfl

theorem mark_finish (d : Drain) (ending : StreamEnd) : (d.finish ending).mark = d.mark := by
  unfold finish
  split <;> rfl

variable {d next : Drain} {reports : List DrainReport}

theorem silent_forward (hd : d.forwarding = false) (stream : OutputStream) (text : String) :
    Silent (d.forward stream text) := by
  rw [forward, hd]
  exact silent_nil

theorem silent_stop (hreports : Silent reports) : Silent (d.stop reports).1 := by
  refine silent_append.mpr ⟨hreports, ?_⟩
  simp [Silent]

/-- A step of a drain keeps its mark, and reports no line unless it forwards. -/
theorem step_mark (h : d.step = some (reports, next)) :
    next.mark = d.mark ∧ (d.forwarding = false → Silent reports) := by
  unfold step at h
  split at h
  · cases h
  · split at h
    -- A whole line has been read.
    · cases h
      exact ⟨rfl, fun hd => silent_forward hd _ _⟩
    -- The last line has no end. Then it depends on how the stream ends.
    · split at h
      · cases h
      · dsimp only at h
        split at h <;> cases h
        · exact ⟨rfl, fun _ => silent_stop silent_nil⟩
        · exact ⟨rfl, fun hd => silent_stop (silent_forward hd _ _)⟩
      · cases h
        exact ⟨rfl, fun hd => silent_stop (silent_forward hd _ _)⟩

/-- So does a drain as long as there is something to read. -/
theorem run_mark (d : Drain) : d.run.2.mark = d.mark ∧ (d.forwarding = false → Silent d.run.1) := by
  induction d using run.induct with
  | case1 d hstep =>
      rw [run, hstep]
      exact ⟨rfl, fun _ => silent_nil⟩
  | case2 d reports next hstep more last hrun ih =>
      obtain ⟨hmark, hsilent⟩ := step_mark hstep
      rw [run, hstep]
      refine ⟨ih.1.trans hmark, fun hd => silent_append.mpr ⟨hsilent hd, ih.2 ?_⟩⟩
      rw [← hd]
      exact congrArg Prod.snd hmark

end Drain

/-! ### All drains of a process -/

variable {drains : Drains}

/-- The marks of the drains, in order. -/
def Drains.marks (drains : Drains) : List (OutputStream × Bool) := drains.map Drain.mark

/-- No drain forwards its lines. -/
def Drains.Detached (drains : Drains) : Prop := ∀ d ∈ drains, d.forwarding = false

theorem Drains.detached_iff : drains.Detached ↔ ∀ mark ∈ drains.marks, mark.2 = false := by
  simp [Detached, marks, Drain.mark]

/-- Detaching all drains is told by their marks. -/
theorem Drains.marks_detachAll (drains : Drains) :
    drains.detachAll.marks = drains.marks.map fun mark => (mark.1, false) := by
  simp [marks, detachAll, Drain.mark, Drain.detach, Function.comp_def]

/-- A change to one drain that keeps its mark keeps the marks of all. -/
theorem Drains.update_marks (drains : Drains) (index : Nat) {change : Drain → Drain}
    (hchange : ∀ d, (change d).mark = d.mark) :
    (drains.update index change).2.marks = drains.marks ∧
      (drains.Detached → Silent (drains.update index change).1) := by
  unfold update
  cases hd : drains[index]? with
  | none => exact ⟨rfl, fun _ => silent_nil⟩
  | some d =>
      obtain ⟨hindex, hget⟩ := List.getElem?_eq_some_iff.mp hd
      obtain ⟨hmark, hsilent⟩ := (change d).run_mark
      constructor
      · show (drains.set index (change d).run.2).map Drain.mark = drains.map Drain.mark
        have hlength : index < (drains.map Drain.mark).length := by rwa [List.length_map]
        have hsame : d.mark = (drains.map Drain.mark)[index] := by rw [List.getElem_map, hget]
        rw [List.map_set, hmark, hchange, hsame, List.set_getElem_self]
      · intro hdetached
        have hforwarding : (change d).forwarding = d.forwarding := congrArg Prod.snd (hchange d)
        exact hsilent (hforwarding.trans (hdetached d (hget ▸ List.getElem_mem hindex)))

/-- What happens to a process keeps the marks of its drains. -/
theorem Process.happen_marks (p : Process) (h : Happening) :
    (p.happen h).2.drains.marks = p.drains.marks ∧
      (p.drains.Detached → Silent (p.happen h).1) := by
  unfold happen
  split
  · exact ⟨rfl, fun _ => silent_nil⟩
  · refine p.drains.update_marks _ fun d => ?_
    cases h.event with
    | written bytes => exact d.mark_write bytes
    | ended => exact d.mark_finish .closed

/-- So does all that happens up to a moment. -/
theorem Process.go_marks (time : Millis) (p : Process) (ahead : List Happening) :
    (advance.go time p ahead).2.drains.marks = p.drains.marks ∧
      (p.drains.Detached → Silent (advance.go time p ahead).1) := by
  induction ahead generalizing p with
  | nil => exact ⟨rfl, fun _ => silent_nil⟩
  | cons h rest ih =>
      obtain ⟨hmarks, hsilent⟩ := p.happen_marks h
      rw [advance.go]
      split
      · refine ⟨(ih _).1.trans hmarks, fun hp => silent_append.mpr ⟨hsilent hp, (ih _).2 ?_⟩⟩
        rw [Drains.detached_iff, hmarks]
        exact Drains.detached_iff.mp hp
      · exact ⟨rfl, fun _ => silent_nil⟩

end CaseRunner.Connection

/-! ### The world meanwhile -/

namespace CaseRunner.Remote

open CaseRunner.Config (Millis)
open CaseRunner.Connection

variable {σ : Type} {s : Surroundings} {w w₁ w' : World σ} {made later earlier : History}

namespace World

/-- The streams of the process, and for each whether its lines are forwarded. -/
def outputs (w : World σ) : Option (List (OutputStream × Bool)) :=
  w.process.map fun process => process.drains.marks

/-- No line of output is forwarded. -/
def Muted (w : World σ) : Prop := ∀ marks, w.outputs = some marks → ∀ mark ∈ marks, mark.2 = false

end World

/-- Calls are made and time passes. No process is started, and the output of one that was
started before is forwarded as before. -/
structure Passes (w : World σ) (made : History) (w' : World σ) : Prop where
  calls : w'.calls = made ++ w.calls
  launches : w'.launches = w.launches
  outputs : w'.outputs = w.outputs
  lines : w.Muted → w'.lines = w.lines

namespace Passes

theorem refl (w : World σ) : Passes w [] w := ⟨rfl, rfl, rfl, fun _ => rfl⟩

theorem muted (h : Passes w made w') (hw : w.Muted) : w'.Muted := by
  intro marks hmarks
  rw [h.outputs] at hmarks
  exact hw marks hmarks

theorem trans (h₁ : Passes w earlier w₁) (h₂ : Passes w₁ later w') :
    Passes w (later ++ earlier) w' where
  calls := by rw [h₂.calls, h₁.calls, List.append_assoc]
  launches := h₂.launches.trans h₁.launches
  outputs := h₂.outputs.trans h₁.outputs
  lines hw := (h₂.lines (h₁.muted hw)).trans (h₁.lines hw)

/-- Noting something in the journal has no part in it. -/
theorem noted (h : Passes w made w') (entry : Journal.Entry) :
    Passes w made { w' with toWorkspace := w'.note entry } :=
  ⟨h.calls, h.launches, h.outputs, h.lines⟩

end Passes

/-- Questions are calls in no time at all. -/
theorem Asks.passes (h : Asks w made w') : Passes w made w' where
  calls := by rw [h.same]
  launches := by rw [h.same]
  outputs := by rw [h.same]; rfl
  lines _ := by rw [h.same]

/-- Reports that are taken in change the journal and the lines, and without a line among
them only the journal. -/
theorem foldl_takeReport_passes (toJournal : Bool) (reports : List DrainReport) (w : World σ) :
    (reports.foldl (World.takeReport toJournal) w).calls = w.calls ∧
      (reports.foldl (World.takeReport toJournal) w).launches = w.launches ∧
      (reports.foldl (World.takeReport toJournal) w).outputs = w.outputs ∧
      (Silent reports → (reports.foldl (World.takeReport toJournal) w).lines = w.lines) := by
  induction reports generalizing w with
  | nil => exact ⟨rfl, rfl, rfl, fun _ => rfl⟩
  | cons report reports ih =>
      obtain ⟨hcalls, hlaunches, houtputs, hlines⟩ := ih (w.takeReport toJournal report)
      rw [List.foldl_cons, hcalls, hlaunches, houtputs]
      cases report with
      | line line =>
          have hline : ¬Silent (.line line :: reports) :=
            fun hsilent => hsilent line List.mem_cons_self
          unfold World.takeReport
          dsimp only
          split
          · exact ⟨rfl, rfl, rfl, fun hsilent => absurd hsilent hline⟩
          · exact ⟨rfl, rfl, rfl, fun hsilent => absurd hsilent hline⟩
      | finished stream =>
          refine ⟨rfl, rfl, rfl, fun hsilent => ?_⟩
          exact hlines fun line hmem => hsilent line (List.mem_cons_of_mem _ hmem)

/-- Time that passes makes no call, and adds no line if no drain forwards. -/
theorem advance_passes (toJournal : Bool) (time : Millis) (w : World σ) :
    Passes w [] (w.advance toJournal time) := by
  unfold World.advance
  split
  · exact ⟨rfl, rfl, rfl, fun _ => rfl⟩
  · rename_i process hprocess
    obtain ⟨hmarks, hsilent⟩ := process.go_marks time process.ahead
    obtain ⟨hcalls, hlaunches, houtputs, hlines⟩ := foldl_takeReport_passes toJournal
      (process.advance time).1 { w with now := time, process := some (process.advance time).2 }
    have hbefore : w.outputs = some process.drains.marks := by rw [World.outputs, hprocess]; rfl
    refine ⟨hcalls, hlaunches, ?_, fun hmuted => hlines (hsilent ?_)⟩
    · rw [hbefore, ← hmarks]
      exact houtputs
    · exact Drains.detached_iff.mpr (hmuted _ hbefore)

/-- So does a pause, however it ends. -/
theorem pause_passes {interval : Millis} {activity : String} {r : Except Failure Unit}
    (h : (pause interval activity).outcome s w = some (r, w')) : Passes w [] w' := by
  rcases pause_cases h with ⟨-, rfl, -⟩ | ⟨moment, w₁, -, -, ⟨-, rfl⟩ | ⟨-, rfl⟩, entry, rfl⟩
  · exact advance_passes _ _ w
  · exact (Passes.refl w₁).noted entry
  · exact (advance_passes _ moment w).noted entry

end CaseRunner.Remote
