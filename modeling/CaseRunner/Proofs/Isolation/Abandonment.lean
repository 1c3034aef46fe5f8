import CaseRunner.Proofs.Isolation.Compensation
import CaseRunner.Proofs.Isolation.Directories

/-!
# `CaseRunner.Proofs.Isolation.Abandonment`: what is known of a run when things are put back

A run that was started is waited for, and right after that things are put back. Before the
first of them is, the run has been found over or the tool has been asked to cancel it
(`Settled`), unless the last question about the run was not answered: then nothing more is
asked, and the run is left alone while its test sets and directories go. So the run is settled if
and only if this did not happen (`runCase_settles_iff`). It can happen
(`runCase_abandons`).
-/

set_option autoImplicit false

namespace CaseRunner.Isolation

open CaseRunner.Config (CaseRequest)
open CaseRunner.Files (FileStore CopyBack)
open CaseRunner.Remote

variable {s : Surroundings} {run : Nat} {history : History}

/-- By the end of the calls the run has just been found neither running nor pending, or the tool
has just been asked to cancel it. -/
def Settled (s : Surroundings) (run : Nat) (history : History) : Prop :=
  SawEnd s run history ∨ AskedToCancel run history

/-- A run that was waited for is settled, or else the last question was not answered. -/
theorem WaitedFor.settled_iff (h : WaitedFor s run history) :
    Settled s run history ↔ ¬Unanswered run history := by
  constructor
  · rintro hsettled ⟨call, v, earlier, rfl, hcall, hv⟩
    rcases hsettled with ⟨before, heq, -, -⟩ | ⟨v', before, heq⟩
    · cases heq
      exact hv rfl
    · cases heq
      rcases hcall with hcall | hcall <;> cases hcall
  · intro hanswered
    cases h with
    | ended h => exact .inl h
    | cancelled h => exact .inr h
    | unanswered h => exact absurd h hanswered

section

variable {σ : Type} [FileStore σ] {w w' : World σ} {project : ProjectRef} {config : ConfigRef}
  {testCase : TestCase} {scope : Scope} {request : CaseRequest} {files : σ} {set : TestSetRef}
  {number : Nat} {made : History} {applied : Applied} {ok : Bool} {p : Parts}

/-- After a run was started it is waited for, and nothing is changed meanwhile but that it may
be cancelled. -/
theorem Forward.waiting
    (h : Forward project config testCase scope request files set number made applied ok)
    (hstarted : applied.runStarted = true) : applied.tempTestSet = some set ∧
      ∃ waiting earlier : History, made = waiting ++ ⟨.run config, .granted⟩ :: earlier ∧
        (waiting.changes = [] ∨ waiting.changes = [.cancel number]) := by
  cases h with
  | data | report | create | start => cases hstarted
  | @wait polls started created dataDir reportDir _ hdirs hcreate hseq hg h =>
      refine ⟨rfl, polls, ?_⟩
      obtain ⟨v, rest, rfl⟩ := History.exists_cons_of_sequence hseq
      obtain rfl : v = .granted := hg _ List.mem_cons_self
      exact ⟨rest ++ (created ++ isolating config dataDir reportDir), rfl,
        h.changes.imp_right (·.1)⟩

/-- A run that is among the calls is the one that was recorded as started. -/
theorem RunsBy.started_of_mem (h : RunsBy s w project request config testCase p w')
    {c : ConfigRef} (hmem : ⟨.run c, .granted⟩ ∈ p.made) :
    c = config ∧ p.applied.runStarted = true := by
  obtain ⟨later, earlier, hmade⟩ := List.append_of_mem hmem
  obtain ⟨rfl, -⟩ := h.isolated hmade
  exact ⟨rfl, h.started_iff.mp hmem⟩

/-- If a case run starts a run, all calls that put things back come after it was waited for, and
nothing else is changed in between. The run is settled by then if and only if the last question
about it was answered. -/
theorem runCase_settles_iff {copyBack : CopyBack σ} {r : Except Failure Bool} {c : ConfigRef}
    (h : (runCase copyBack project request).outcome s w = some (r, w'))
    (hcalls : w'.calls = made ++ w.calls) (hstarted : ⟨.run c, .granted⟩ ∈ made) :
    ∃ puttingBack waiting earlier : History,
      made = puttingBack ++ (waiting ++ ⟨.run c, .granted⟩ :: earlier) ∧
      puttingBack.sequence = (scopeOf w c).assignments.map Assignment.restoring ++
        (scopeOf w c).restoringDirs c ++
          [.setName (tempSetOf w project request),
            .deleteTestSet project (tempSetOf w project request)] ∧
      (waiting.changes = [] ∨ waiting.changes = [.cancel w.runs.length]) ∧
      let before := waiting ++ ⟨.run c, .granted⟩ :: (earlier ++ w.calls)
      (Settled s w.runs.length before ↔ ¬Unanswered w.runs.length before) := by
  rcases runCase_cases h with ⟨asked, -, hasks, -⟩ | ⟨config, testCase, p, answer, -, -, hrun, -⟩
  · obtain rfl : asked = made := List.append_cancel_right (hasks.course.calls.symm.trans hcalls)
    exact absurd hstarted (hasks.quiet.not_mem rfl)
  · obtain rfl : p.made = made := List.append_cancel_right (hrun.calls.symm.trans hcalls)
    obtain ⟨rfl, hstarted⟩ := hrun.started_of_mem hstarted
    obtain ⟨hset, waiting, earlier, hforward, hwaiting⟩ := hrun.forward.waiting hstarted
    have hwaited := hrun.waitedFor hstarted
    rw [hforward] at hwaited
    refine ⟨p.cleanup ++ p.dirs ++ p.items, waiting, earlier ++ p.asked, ?_, ?_, hwaiting, ?_⟩
    · simp [Parts.made, hforward]
    · simp [hrun.itemCalls, hrun.dirCalls, hrun.cleanupCalls, Applied.cleaningUp, hset]
    · have hbefore : waiting ++ ⟨.run c, .granted⟩ :: earlier ++ p.asked ++ w.calls =
          waiting ++ ⟨.run c, .granted⟩ :: (earlier ++ p.asked ++ w.calls) := by simp
      rw [hbefore] at hwaited
      exact hwaited.settled_iff

end

/-- The small case run with a tool that grants all calls: the run is settled before anything is
put back. -/
theorem runCase_settles_small :
    let verdict (_ : History) (_ : Call) : Verdict := .granted
    ∃ r w' before, smallOutcome verdict = some (r, w') ∧ before <:+ w'.calls ∧
      Settled (promptTool verdict) 0 before := by
  intro verdict
  have hends : (smallOutcome verdict).map (fun p =>
      (decide (⟨.run smallConfig, .granted⟩ ∈ p.2.calls),
        p.2.calls.all fun record => decide (record.verdict = .granted))) =
      some (true, true) := by decide +kernel
  obtain ⟨⟨r, w'⟩, h, hcalls⟩ := Option.map_eq_some_iff.mp hends
  simp only [Prod.mk.injEq, decide_eq_true_eq, List.all_eq_true] at hcalls
  obtain ⟨hstarted, hgranted⟩ := hcalls
  obtain ⟨puttingBack, waiting, earlier, hmade, -, -, hiff⟩ :=
    runCase_settles_iff h (List.append_nil w'.calls).symm hstarted
  have hbefore : waiting ++ ⟨.run smallConfig, .granted⟩ :: (earlier ++ smallWorld.calls) <:+
      w'.calls := ⟨puttingBack, by rw [hmade]; simp [smallWorld, World.initial]⟩
  refine ⟨r, w', _, h, hbefore, hiff.mpr ?_⟩
  rintro ⟨call, v, rest, heq, -, hv⟩
  exact hv (hgranted ⟨call, v⟩ (hbefore.subset (heq ▸ List.mem_cons_self)))

/-- If the tool does not answer whether the run is running, the next thing after the question is
that everything is put back. At no time is the run settled. -/
theorem runCase_abandons :
    let verdict (_ : History) (call : Call) : Verdict :=
      if call = .isRunning 0 then .refused (.api "") else .granted
    ∃ r w' earlier, smallOutcome verdict = some (r, w') ∧
      w'.calls = [
        ⟨.deleteTestSet ⟨0, none⟩ ⟨1, "Temp"⟩, .granted⟩, ⟨.setName ⟨1, "Temp"⟩, .granted⟩,
        ⟨.setReportDir smallConfig "/report", .granted⟩,
        ⟨.setDataDir smallConfig "/data", .granted⟩, ⟨.setTestSet ⟨smallConfig, 1⟩ none, .granted⟩,
        ⟨.setTestSet ⟨smallConfig, 0⟩ (some ⟨0, "All"⟩), .granted⟩,
        ⟨.isRunning 0, .refused (.api "")⟩, ⟨.run smallConfig, .granted⟩] ++ earlier ∧
      ∀ history, history <:+ w'.calls → ¬Settled (promptTool verdict) 0 history := by
  intro verdict
  have hends : (smallOutcome verdict).map (fun p => (p.2.calls.take 8,
      p.2.calls.all fun record => record.call ≠ .isPending 0 && !record.call matches .cancel _)) =
      some ([
        ⟨.deleteTestSet ⟨0, none⟩ ⟨1, "Temp"⟩, .granted⟩, ⟨.setName ⟨1, "Temp"⟩, .granted⟩,
        ⟨.setReportDir smallConfig "/report", .granted⟩,
        ⟨.setDataDir smallConfig "/data", .granted⟩, ⟨.setTestSet ⟨smallConfig, 1⟩ none, .granted⟩,
        ⟨.setTestSet ⟨smallConfig, 0⟩ (some ⟨0, "All"⟩), .granted⟩,
        ⟨.isRunning 0, .refused (.api "")⟩, ⟨.run smallConfig, .granted⟩], true) := by
    decide +kernel
  obtain ⟨⟨r, w'⟩, h, hcalls⟩ := Option.map_eq_some_iff.mp hends
  simp only [Prod.mk.injEq, List.all_eq_true] at hcalls
  obtain ⟨hnewest, hnone⟩ := hcalls
  refine ⟨r, w', w'.calls.drop 8, h, by rw [← hnewest, List.take_append_drop], ?_⟩
  rintro history hhistory (⟨earlier, rfl, -, -⟩ | ⟨v, earlier, rfl⟩)
  · have hpending := hnone _ (hhistory.subset List.mem_cons_self)
    simp at hpending
  · have hcancel := hnone _ (hhistory.subset List.mem_cons_self)
    simp at hcancel

end CaseRunner.Isolation
