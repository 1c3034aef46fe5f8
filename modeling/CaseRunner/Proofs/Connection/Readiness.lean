import CaseRunner.Connection.Readiness
import CaseRunner.Proofs.Connection.Output
import CaseRunner.Proofs.Remote.Pauses

/-!
# `CaseRunner.Proofs.Connection.Readiness`: asking whether the tool is ready

A question is one call and takes no time (`probe_outcome`). Waiting for the tool asks it again
and again. That comes to its end if the deadline or the user's moment is within so many rounds
(`OverWithin`), which holds for every loop that looks at its deadline in each round and pauses
after that.

What the tool says may depend on all calls before. So an answer is told by the history at the
time of the question: `History.LastAnswer` singles out the last question of its sort.
-/

set_option autoImplicit false

namespace CaseRunner.Remote

/-! ### The last call of its sort -/

/-- Among the calls `made` after a history, the last one of the sort is `call`, and the
answer holds of the calls before it. -/
def History.LastAnswer (made history : History) (sort : Call → Bool) (call : Call)
    (answer : History → Prop) : Prop :=
  ∃ later v earlier, made = later ++ ⟨call, v⟩ :: earlier ∧
    (∀ record ∈ later, sort record.call = false) ∧ answer (earlier ++ history)

namespace History.LastAnswer

variable {made history : History} {sort : Call → Bool} {call : Call} {answer : History → Prop}

theorem one {v : Verdict} (h : answer history) :
    History.LastAnswer [⟨call, v⟩] history sort call answer :=
  ⟨[], v, [], rfl, List.forall_mem_nil _, h⟩

theorem imp (h : History.LastAnswer made history sort call answer)
    {holds : History → Prop} (himp : ∀ history, answer history → holds history) :
    History.LastAnswer made history sort call holds := by
  obtain ⟨later, v, earlier, hmade, hlater, hanswer⟩ := h
  exact ⟨later, v, earlier, hmade, hlater, himp _ hanswer⟩

/-- Calls of another sort may follow. -/
theorem append (h : History.LastAnswer made history sort call answer) {later : History}
    (hlater : ∀ record ∈ later, sort record.call = false) :
    History.LastAnswer (later ++ made) history sort call answer := by
  obtain ⟨others, v, earlier, rfl, hothers, hanswer⟩ := h
  refine ⟨later ++ others, v, earlier, (List.append_assoc _ _ _).symm, ?_, hanswer⟩
  intro record hmem
  exact (List.mem_append.mp hmem).elim (hlater record) (hothers record)

/-- Calls may have been made before. -/
theorem of_append {earlier : History}
    (h : History.LastAnswer made (earlier ++ history) sort call answer) :
    History.LastAnswer (made ++ earlier) history sort call answer := by
  obtain ⟨later, v, before, rfl, hlater, hanswer⟩ := h
  refine ⟨later, v, before ++ earlier, by simp, hlater, ?_⟩
  rwa [List.append_assoc]

end History.LastAnswer

/-- Whether a call asks if a tool is ready. -/
def Call.isProbe : Call → Bool
  | .isReady _ => true
  | _ => false

end CaseRunner.Remote

namespace CaseRunner.Connection

open CaseRunner.Config (Millis ReadinessOptions)
open CaseRunner.Remote
open CaseRunner.Remote.Action

variable {σ : Type} {s : Surroundings} {w w₁ w' : World σ} {tool : ToolRef}
  {options : ReadinessOptions} {deadline : Option Millis} {rounds : Nat}

/-! ### Loops with a deadline -/

@[simp] theorem outcome_isOver (deadline : Option Millis) :
    (isOver deadline : Action σ Failure Bool).outcome s w =
      some (.ok (deadline.any (· ≤ w.now)), w) := rfl

/-- A deadline or the user puts an end to waiting within a span of time. -/
def OverWithin (s : Surroundings) (deadline : Option Millis) (span : Millis) (w : World σ) : Prop :=
  ∃ stop, (deadline = some stop ∨ s.interruptAt = some stop) ∧ stop ≤ w.now + span

/-- Only the time counts. -/
theorem OverWithin.of_now {span : Millis} (h : OverWithin s deadline span w)
    (hnow : w'.now = w.now) : OverWithin s deadline span w' := by
  unfold OverWithin
  rwa [hnow]

/-- With no time left, a loop that is not over cannot pause to the end. -/
theorem OverWithin.not_pause {interval : Millis} {activity : String}
    (h : OverWithin s deadline 0 w) (hnot : deadline.any (· ≤ w.now) = false) :
    (pause interval activity).outcome s w ≠ some (.ok (), w') := by
  intro hpause
  obtain ⟨stop, rfl | hstop, hnow⟩ := h
  · simp only [Option.any_some, decide_eq_false_iff_not] at hnot
    exact hnot hnow
  · exact absurd (pause_ok hstop hpause).1 (Nat.not_lt_of_le hnow)

/-- With time for one more round, there is one round less after a pause. -/
theorem OverWithin.after_pause {interval : Millis} {activity : String}
    (h : OverWithin s deadline ((rounds + 1) * min interval longPause) w)
    (hpause : (pause interval activity).outcome s w = some (.ok (), w')) :
    OverWithin s deadline (rounds * min interval longPause) w' := by
  obtain ⟨stop, hstop, hnow⟩ := h
  refine ⟨stop, hstop, ?_⟩
  calc stop
    _ ≤ w.now + (rounds + 1) * min interval longPause := hnow
    _ = w.now + min interval longPause + rounds * min interval longPause := by
      rw [Nat.succ_mul, Nat.add_comm (rounds * _), Nat.add_assoc]
    _ ≤ w'.now + rounds * min interval longPause := Nat.add_le_add_right (pause_now hpause) _

/-- The bound on rounds is enough for waiting from a moment on, with the given timeout: pauses of
the interval reach the deadline, if it can be told, or the moment of the user. -/
def EnoughPatience (s : Surroundings) (now timeout interval : Millis) : Prop :=
  ∃ rounds, s.patience = rounds + 1 ∧
    (Config.seconds (now + timeout) ≤ lastSecond ∧ timeout ≤ rounds * min interval longPause ∨
      ∃ moment, s.interruptAt = some moment ∧ moment ≤ now + rounds * min interval longPause)

theorem EnoughPatience.overWithin {timeout interval : Millis}
    (h : EnoughPatience s w.now timeout interval) :
    ∃ rounds, s.patience = rounds + 1 ∧
      OverWithin s (momentAfter w.now timeout) (rounds * min interval longPause) w := by
  obtain ⟨rounds, hpatience, ⟨htold, htimeout⟩ | ⟨moment, hmoment, hreached⟩⟩ := h
  · exact ⟨rounds, hpatience, w.now + timeout, .inl (momentAfter_of_told htold),
      Nat.add_le_add_left htimeout _⟩
  · exact ⟨rounds, hpatience, moment, .inr hmoment, hreached⟩

/-! ### One question -/

/-- Whether a question finds the tool ready, given the calls before it. -/
def foundReady (s : Surroundings) (tool : ToolRef) (history : History) : Bool :=
  match (s.verdict history (.isReady tool)).fault? with
  | none => s.ready history tool
  | some _ => false

/-- A probe asks one question. -/
theorem probe_outcome (tool : ToolRef) :
    ∃ w₁, (probe tool : Action σ Failure Bool).outcome s w =
        some (.ok (foundReady s tool w.calls), w₁) ∧
      Asks w [⟨.isReady tool, s.verdict w.calls (.isReady tool)⟩] w₁ := by
  have hasks : Asks w [⟨.isReady tool, s.verdict w.calls (.isReady tool)⟩]
      (w.withCall ⟨.isReady tool, s.verdict w.calls (.isReady tool)⟩) := .of_call w _ rfl
  unfold probe isReady foundReady
  rw [outcome_bind, outcome_attempt, outcome_perform]
  cases hfault : (s.verdict w.calls (.isReady tool)).fault? with
  | none =>
      rw [Verdict.fault?_eq_none.mp hfault] at hasks ⊢
      exact ⟨_, rfl, hasks⟩
  | some fault => exact ⟨_, rfl, hasks.trans (.of_note _ _)⟩

/-- The version is asked for once, and does not matter. -/
theorem noteVersion_outcome (tool : ToolRef) :
    ∃ w₁, (noteVersion tool : Action σ Failure Unit).outcome s w = some (.ok (), w₁) ∧
      Asks w [⟨.version tool, s.verdict w.calls (.version tool)⟩] w₁ := by
  have hasks : Asks w [⟨.version tool, s.verdict w.calls (.version tool)⟩]
      (w.withCall ⟨.version tool, s.verdict w.calls (.version tool)⟩) := .of_call w _ rfl
  unfold noteVersion version
  rw [outcome_bind, outcome_attempt, outcome_perform]
  cases hfault : (s.verdict w.calls (.version tool)).fault? with
  | none =>
      rw [Verdict.fault?_eq_none.mp hfault] at hasks ⊢
      exact ⟨_, rfl, hasks.trans (.of_note _ _)⟩
  | some fault => exact ⟨_, rfl, hasks.trans (.of_note _ _)⟩

/-! ### The waiting ends -/

/-- A round of waiting ends if all later rounds do. -/
theorem awaitReady_ends_succ
    (hlater : ∀ w₁ w₂ : World σ, deadline.any (· ≤ w.now) = false →
      (pause options.interval "waiting for TPT to become ready").outcome s w = some (.ok (), w₁) →
      w₂.now = w₁.now → ((awaitReady tool options deadline rounds).outcome s w₂).isSome) :
    ((awaitReady tool options deadline (rounds + 1)).outcome s w).isSome := by
  rw [awaitReady, outcome_bind, outcome_isOver, Option.bind_some]
  dsimp only
  split
  · rfl
  · rename_i hnot
    rw [Bool.not_eq_true] at hnot
    obtain ⟨⟨r, w₁⟩, hpause⟩ := Option.isSome_iff_exists.mp
      (pause_ends (s := s) options.interval "waiting for TPT to become ready" w)
    rw [outcome_bind, hpause, Option.bind_some]
    cases r with
    | error failure => rfl
    | ok =>
        obtain ⟨w₂, hprobe, hasks⟩ := probe_outcome (s := s) (w := w₁) tool
        dsimp only
        rw [outcome_bind, hprobe, Option.bind_some]
        dsimp only
        split
        · rfl
        · exact hlater w₁ w₂ hnot hpause (by rw [hasks.same])

theorem awaitReady_ends
    (h : OverWithin s deadline (rounds * min options.interval longPause) w) :
    ((awaitReady tool options deadline (rounds + 1)).outcome s w).isSome := by
  induction rounds generalizing w with
  | zero =>
      rw [Nat.zero_mul] at h
      exact awaitReady_ends_succ fun w₁ w₂ hnot hpause _ => absurd hpause (h.not_pause hnot)
  | succ rounds ih =>
      refine awaitReady_ends_succ fun w₁ w₂ _ hpause hnow => ih ?_
      exact (h.after_pause hpause).of_now hnow

/-- Waiting for the tool ends if the bound on rounds is enough for the timeout. -/
theorem waitUntilReady_ends (h : EnoughPatience s w.now options.timeout options.interval)
    (tool : ToolRef) : ((waitUntilReady options tool).outcome s w).isSome := by
  obtain ⟨w₁, hprobe, hasks⟩ := probe_outcome (s := s) (w := w) tool
  obtain ⟨rounds, hpatience, hover⟩ := h.overWithin
  have hnow : w₁.now = w.now := by rw [hasks.same]
  rw [← hnow] at hover
  rw [waitUntilReady, outcome_bind, hprobe, Option.bind_some]
  dsimp only
  split
  · rfl
  · simp only [outcome_bind, outcome_note, outcome_get, outcome_read, Option.bind_some, hpatience]
    exact awaitReady_ends (hover.of_now hnow)

end CaseRunner.Connection
