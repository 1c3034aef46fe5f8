import CaseRunner.Isolation.CaseRun
import CaseRunner.Proofs.Remote.Pauses

/-!
# `CaseRunner.Proofs.Isolation.Polling`: waiting for the end of a run

Waiting asks whether the run is running and, if not, whether it is pending. It ends in one
of three ways (`awaitCompletion_cases`): both answers are no, a question fails, or the user
interrupts and the run is cancelled. Only the last one asks the tool for a change, and that
is the last call that is made.
-/

set_option autoImplicit false

namespace CaseRunner.Isolation

open CaseRunner.Config (Millis)
open CaseRunner.Remote
open CaseRunner.Remote.Action

variable {σ : Type} {s : Surroundings} {w w' : World σ} {run rounds : Nat} {interval : Millis}

/-- The last two calls of a history found a run neither running nor pending. -/
def SawEnd (s : Surroundings) (run : Nat) (history : History) : Prop :=
  ∃ earlier, history = ⟨.isPending run, .granted⟩ :: ⟨.isRunning run, .granted⟩ :: earlier ∧
    s.running earlier run = false ∧
    s.pending (⟨.isRunning run, .granted⟩ :: earlier) run = false

/-- The last call asks the tool to cancel a run. -/
def AskedToCancel (run : Nat) (history : History) : Prop :=
  ∃ v earlier, history = ⟨.cancel run, v⟩ :: earlier

/-- The last call is a question about a run that was not answered. -/
def Unanswered (run : Nat) (history : History) : Prop :=
  ∃ call v earlier, history = ⟨call, v⟩ :: earlier ∧
    (call = .isRunning run ∨ call = .isPending run) ∧ v ≠ .granted

/-- How waiting for a run can leave it, told by the last calls. -/
inductive WaitedFor (s : Surroundings) (run : Nat) (history : History) : Prop
  /-- The run was found neither running nor pending. -/
  | ended (h : SawEnd s run history)
  /-- The tool was asked to cancel the run. -/
  | cancelled (h : AskedToCancel run history)
  /-- It is not known how the run goes on. -/
  | unanswered (h : Unanswered run history)

/-! ### Polling -/

/-- Whether the run is busy: it is running, or else it is pending. -/
def isBusy (run : Nat) : Action σ RemoteFault Bool := do
  if ← isRunning run then return true else isPending run

/-- Asking whether the run is busy is one or two questions. The answer no ends the calls
with the two that found it; no answer means that the last question failed. -/
theorem isBusy_cases {r : Except RemoteFault Bool}
    (h : (isBusy run).outcome s w = some (r, w')) :
    ∃ made, Asks w made w' ∧
      ((r = .ok false ∧ made.Granted ∧ SawEnd s run (made ++ w.calls)) ∨
        (r = .ok true ∧ made.Granted) ∨
        ((∃ fault, r = .error fault) ∧ ¬made.Granted ∧ Unanswered run (made ++ w.calls))) := by
  unfold isBusy at h
  rcases bind_cases h with ⟨busy, w₁, h₁, h⟩ | ⟨fault, h₁, rfl⟩
  · rcases perform_cases h₁ with h₁ | ⟨v, fault, -, hr, -⟩
    · simp only [outcome_bind, outcome_read, outcome_pure, Option.bind_some, Option.some.injEq,
        Prod.mk.injEq, Except.ok.injEq] at h₁
      obtain ⟨hbusy, rfl⟩ := h₁
      have hasks : Asks w [⟨.isRunning run, .granted⟩] (w.withCall ⟨.isRunning run, .granted⟩) :=
        .of_call w .granted rfl
      cases busy with
      | true =>
          -- A run that is running is not asked about further.
          simp only [if_true, outcome_pure, Option.some.injEq, Prod.mk.injEq] at h
          obtain ⟨rfl, rfl⟩ := h
          exact ⟨_, hasks, .inr (.inl ⟨rfl, by simp [History.Granted]⟩)⟩
      | false =>
          simp only [Bool.false_eq_true, if_false] at h
          rcases perform_cases h with h | ⟨v, fault, hv, rfl, rfl⟩
          · simp only [outcome_bind, outcome_read, outcome_pure, Option.bind_some,
              Option.some.injEq, Prod.mk.injEq] at h
            obtain ⟨rfl, rfl⟩ := h
            refine ⟨_, hasks.trans (.of_call _ .granted rfl), ?_⟩
            cases hpending : s.pending (w.withCall ⟨.isRunning run, .granted⟩).calls run with
            | true => exact .inr (.inl ⟨rfl, by simp [History.Granted]⟩)
            | false => exact .inl ⟨rfl, by simp [History.Granted], w.calls, rfl, hbusy, hpending⟩
          · exact ⟨_, hasks.trans (.of_call _ v rfl),
              .inr (.inr ⟨⟨fault, rfl⟩, by simp [History.Granted, hv], _, v, _, rfl, .inr rfl, hv⟩)⟩
    · cases hr
  · rcases perform_cases h₁ with h₁ | ⟨v, _, hv, -, rfl⟩
    · simp [outcome_map, Except.map] at h₁
    · exact ⟨_, .of_call w v rfl, .inr (.inr ⟨⟨fault, rfl⟩, by simpa [History.Granted] using hv,
        _, v, _, rfl, .inl rfl, hv⟩)⟩

/-- Waiting for a run asks nothing but questions until its end. It ends well if the run was
found neither running nor pending. Else the last question failed, or the run was cancelled. -/
theorem awaitCompletion_cases {r : Except Failure Unit}
    (h : (awaitCompletion run interval rounds).outcome s w = some (r, w')) :
    ∃ made, Course w made w' ∧
      ((r = .ok () ∧ made.Quiet ∧ made.Granted ∧ SawEnd s run w'.calls) ∨
        ((∃ failure, r = .error failure) ∧ made.Quiet ∧ ¬made.Granted ∧
          Unanswered run w'.calls) ∨
        ((∃ failure, r = .error failure) ∧
          ∃ v polls, made = ⟨.cancel run, v⟩ :: polls ∧ History.Quiet polls)) := by
  induction rounds generalizing w with
  | zero => simp [awaitCompletion] at h
  | succ rounds ih =>
      rw [awaitCompletion] at h
      rcases bind_cases h with ⟨busy, w₁, h₁, h⟩ | ⟨failure, h₁, rfl⟩
      · obtain ⟨result, ho, hr⟩ := mapFailure_cases h₁
        obtain ⟨made, hasks, ⟨rfl, hg, hend⟩ | ⟨rfl, hg⟩ | ⟨⟨_, rfl⟩, -⟩⟩ := isBusy_cases ho
        · cases hr
          simp only [Bool.not_false, if_true, outcome_note, Option.some.injEq, Prod.mk.injEq] at h
          obtain ⟨rfl, rfl⟩ := h
          refine ⟨made, hasks.course.noted _, .inl ?_⟩
          exact ⟨rfl, hasks.quiet, hg, by rw [← hasks.course.calls] at hend; exact hend⟩
        -- The run is busy: a pause follows, which an interruption can end.
        · cases hr
          simp only [Bool.not_true, Bool.false_eq_true, if_false] at h
          obtain ⟨result, w₂, h₂, h⟩ := attempt_bind_cases h
          have hbefore := hasks.course.trans (pause_course h₂)
          cases result with
          | ok =>
              -- The pause lasted, so the rest of the rounds go on from here.
              obtain ⟨later, hcourse, hcases⟩ := ih h
              refine ⟨later ++ made, hbefore.trans hcourse, ?_⟩
              have hquiet (hl : History.Quiet later) : History.Quiet (later ++ made) :=
                History.quiet_append.mpr ⟨hl, hasks.quiet⟩
              rcases hcases with ⟨hr, hq, hl, hend⟩ | ⟨hr, hq, hl, hlast⟩ | ⟨hr, v, polls, rfl, hq⟩
              · exact .inl ⟨hr, hquiet hq, History.granted_append.mpr ⟨hl, hg⟩, hend⟩
              · exact .inr (.inl
                  ⟨hr, hquiet hq, fun h => hl (History.granted_append.mp h).1, hlast⟩)
              · exact .inr (.inr ⟨hr, v, polls ++ made, rfl,
                  History.quiet_append.mpr ⟨hq, hasks.quiet⟩⟩)
          | error failure =>
              have h := note_bind_cases h
              obtain ⟨result, w₃, h₃, h⟩ := attempt_bind_cases h
              obtain ⟨v, hcancel, -⟩ := command_course (fun _ => rfl) h₃
              have hcourse := (hbefore.noted _).trans hcancel
              -- Whether the tool cancels or not, the failure is passed on.
              have hend : r = .error failure ∧ Course w (⟨.cancel run, v⟩ :: made) w' := by
                cases result with
                | ok =>
                    simp at h
                    obtain ⟨rfl, rfl⟩ := h
                    exact ⟨rfl, hcourse⟩
                | error fault =>
                    simp [outcome_bind] at h
                    obtain ⟨rfl, rfl⟩ := h
                    exact ⟨rfl, hcourse.noted _⟩
              exact ⟨_, hend.2, .inr (.inr ⟨⟨failure, hend.1⟩, v, made, rfl, hasks.quiet⟩)⟩
        · cases hr
      · obtain ⟨result, ho, hr⟩ := mapFailure_cases h₁
        obtain ⟨made, hasks, ⟨rfl, -⟩ | ⟨rfl, -⟩ | ⟨-, hg, hlast⟩⟩ := isBusy_cases ho
        · cases hr
        · cases hr
        · rw [← hasks.course.calls] at hlast
          exact ⟨made, hasks.course, .inr (.inl ⟨⟨failure, rfl⟩, hasks.quiet, hg, hlast⟩)⟩

end CaseRunner.Isolation
