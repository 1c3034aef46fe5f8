import CaseRunner.Proofs.Isolation.CaseCourse

/-!
# `CaseRunner.Proofs.Isolation.Phases`: how far the run is when waiting ends

A run that was started is pending, then running, then finished, and may skip a phase. Its
phase can change between any two calls, so it is a function of the history, and a tool that
tells the truth answers each question by the phase at that moment (`Tells`).

Waiting asks whether the run is running and then whether it is pending. A run that is pending
at the first question and running at the second answers no to both. So when waiting ends
well, the run is finished, or it has left its pending phase just between the two questions
of the last poll (`awaitCompletion_phase`). The second case does occur
(`awaitCompletion_while_running`).
-/

set_option autoImplicit false

namespace CaseRunner.Isolation

open CaseRunner.Config (Millis)
open CaseRunner.Remote
open CaseRunner.Remote.Action

/-- How far a run that was started has come. -/
inductive Phase where
  /-- The run waits for its turn. -/
  | pending
  /-- The run goes on. -/
  | running
  /-- The run is over. -/
  | finished
  deriving DecidableEq, Repr

/-- The place of a phase among the phases. -/
def Phase.rank : Phase → Nat
  | .pending => 0
  | .running => 1
  | .finished => 2

/-- The tool tells the truth about a run that has the given phases and never goes back. -/
structure Tells (s : Surroundings) (run : Nat) (phase : History → Phase) : Prop where
  forward : ∀ record history, (phase history).rank ≤ (phase (record :: history)).rank
  running : ∀ history, s.running history run = decide (phase history = .running)
  pending : ∀ history, s.pending history run = decide (phase history = .pending)

variable {σ : Type} {s : Surroundings} {w w' : World σ} {run rounds : Nat} {interval : Millis}
  {phase : History → Phase}

/-- A run that is finished stays so, whatever is called next. -/
theorem Tells.finished (h : Tells s run phase) {earlier : History} (later : History)
    (hfinished : phase earlier = .finished) : phase (later ++ earlier) = .finished := by
  induction later with
  | nil => exact hfinished
  | cons record later ih =>
      have hforward := h.forward record (later ++ earlier)
      rw [ih] at hforward
      rw [List.cons_append]
      cases hphase : phase (record :: (later ++ earlier)) with
      | finished => rfl
      | pending | running =>
          rw [hphase] at hforward
          simp [Phase.rank] at hforward

/-- What two answers no say about the phases at the two questions. -/
theorem Tells.of_sawEnd (h : Tells s run phase) {history : History}
    (hsaw : SawEnd s run history) :
    ∃ earlier, history = ⟨.isPending run, .granted⟩ :: ⟨.isRunning run, .granted⟩ :: earlier ∧
      (phase history = .finished ∨
        phase earlier = .pending ∧ phase (⟨.isRunning run, .granted⟩ :: earlier) = .running) := by
  obtain ⟨earlier, rfl, hrunning, hpending⟩ := hsaw
  refine ⟨earlier, rfl, ?_⟩
  rw [h.running, decide_eq_false_iff_not] at hrunning
  rw [h.pending, decide_eq_false_iff_not] at hpending
  -- The first question excludes one phase at its moment, the second one another at the next.
  cases hsecond : phase (⟨.isRunning run, .granted⟩ :: earlier) with
  | pending => exact absurd hsecond hpending
  | finished => exact .inl (h.finished [⟨.isPending run, .granted⟩] hsecond)
  | running =>
      cases hfirst : phase earlier with
      | pending => exact .inr ⟨rfl, rfl⟩
      | running => exact absurd hfirst hrunning
      | finished =>
          have hstill := h.finished [⟨.isRunning run, .granted⟩] hfirst
          rw [List.singleton_append, hsecond] at hstill
          cases hstill

/-- When waiting ends well, the run is finished, unless it went from pending to running just
between the two questions of the last poll. -/
theorem awaitCompletion_phase (htells : Tells s run phase)
    (h : (awaitCompletion run interval rounds).outcome s w = some (.ok (), w')) :
    ∃ earlier, w'.calls = ⟨.isPending run, .granted⟩ :: ⟨.isRunning run, .granted⟩ :: earlier ∧
      (phase w'.calls = .finished ∨
        phase earlier = .pending ∧ phase (⟨.isRunning run, .granted⟩ :: earlier) = .running) := by
  obtain ⟨made, -, ⟨-, -, -, hsaw⟩ | ⟨⟨_, hr⟩, -⟩ | ⟨⟨_, hr⟩, -⟩⟩ := awaitCompletion_cases h
  · exact htells.of_sawEnd hsaw
  · cases hr
  · cases hr

/-! ### A run that starts late -/

/-- A run that is pending until it is first asked about, and running from then on. -/
def lateRun (history : History) : Phase :=
  if history.any (·.call = .isRunning 0) then .running else .pending

/-- A tool that grants all calls and tells the truth about the late run. -/
def lateTool : Surroundings :=
  { promptTool fun _ _ => .granted with
    running := fun history _ => decide (lateRun history = .running)
    pending := fun history _ => decide (lateRun history = .pending) }

theorem tells_lateTool : Tells lateTool 0 lateRun where
  forward := by
    intro record history
    unfold lateRun
    rw [List.any_cons]
    cases history.any (·.call = .isRunning 0) with
    | true => simp
    | false => simp [Phase.rank]
  running _ := rfl
  pending _ := rfl

/-- Waiting for the late run is over after one poll. -/
theorem awaitCompletion_phase_lateTool :
    ∃ w' earlier, (awaitCompletion 0 1 1).outcome lateTool smallWorld = some (.ok (), w') ∧
      w'.calls = ⟨.isPending 0, .granted⟩ :: ⟨.isRunning 0, .granted⟩ :: earlier ∧
      (lateRun w'.calls = .finished ∨
        lateRun earlier = .pending ∧ lateRun (⟨.isRunning 0, .granted⟩ :: earlier) = .running) := by
  have h : ((awaitCompletion 0 1 1).outcome lateTool smallWorld).map (·.1.toOption) =
      some (some ()) := by decide +kernel
  obtain ⟨⟨r, w'⟩, h, hr⟩ := Option.map_eq_some_iff.mp h
  cases r with
  | error failure => cases hr
  | ok _ =>
      obtain ⟨earlier, hphase⟩ := awaitCompletion_phase tells_lateTool h
      exact ⟨w', earlier, h, hphase⟩

/-- Waiting can end well while the run is running: no call fails and nobody interrupts, the
tool tells the truth, and both answers are no because the run started between them. -/
theorem awaitCompletion_while_running :
    Tells lateTool 0 lateRun ∧ (∀ history call, lateTool.verdict history call = .granted) ∧
      lateTool.interruptAt = none ∧
      ∃ w', (awaitCompletion 0 1 1).outcome lateTool smallWorld = some (.ok (), w') ∧
        lateRun w'.calls = .running := by
  have h : ((awaitCompletion 0 1 1).outcome lateTool smallWorld).map
      (fun p => (p.1.toOption, lateRun p.2.calls)) = some (some (), .running) := by decide +kernel
  obtain ⟨⟨r, w'⟩, h, hr⟩ := Option.map_eq_some_iff.mp h
  cases r with
  | error failure => cases hr
  | ok _ => exact ⟨tells_lateTool, fun _ _ => rfl, rfl, w', h, (Prod.mk.inj hr).2⟩

end CaseRunner.Isolation
