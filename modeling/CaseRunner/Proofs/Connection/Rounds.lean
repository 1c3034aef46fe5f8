import CaseRunner.Connection.Acquire
import CaseRunner.Proofs.Connection.Readiness

/-!
# `CaseRunner.Proofs.Connection.Rounds`: waiting in rounds

Waiting for the tool to register and waiting until it is ready are one and the same loop: a
call in each round, a look at the deadline if the answer is not the one that is waited for, and
a pause. `Rounds` describes such a loop by its call, its deadline and its pause, and `Rounds.Ends`
says how it can end. Both loops come to that (`awaitRegistration_rounds`,
`waitUntilReady_rounds`), though they look at the deadline in different places.

Time passes in pauses only, so each round has its moment, and the last one is told by the
answers, the deadline and the user (`Rounds.Ends.reached`). In particular a loop that never finds
what it waits for is interrupted exactly if the user cuts a pause short that begins before the
deadline (`Rounds.Ends.missed`).
-/

set_option autoImplicit false

namespace CaseRunner.Remote

variable {s : Surroundings} {call : Call} {history : History}

/-- The history after a call has been made so many times in a row. -/
def History.repeated (s : Surroundings) (call : Call) (history : History) : Nat → History
  | 0 => history
  | count + 1 =>
    let earlier := repeated s call history count
    ⟨call, s.verdict earlier call⟩ :: earlier

/-- The first of the calls is counted apart. -/
theorem History.repeated_cons (count : Nat) :
    History.repeated s call (⟨call, s.verdict history call⟩ :: history) count =
      History.repeated s call history (count + 1) := by
  induction count with
  | zero => rfl
  | succ count ih =>
      rw [repeated, ih]
      rfl

/-- Before the calls in a row there is what was there before. -/
theorem History.exists_repeated (s : Surroundings) (call : Call) (history : History)
    (count : Nat) : ∃ made, History.repeated s call history count = made ++ history := by
  induction count with
  | zero => exact ⟨[], rfl⟩
  | succ count ih =>
      obtain ⟨made, hmade⟩ := ih
      exact ⟨_ :: made, congrArg (_ :: ·) hmade⟩

end CaseRunner.Remote

namespace CaseRunner.Connection

open CaseRunner.Config (Millis AcquireOptions ReadinessOptions)
open CaseRunner.Remote
open CaseRunner.Remote.Action

variable {σ α : Type} {s : Surroundings} {w w' : World σ} {options : AcquireOptions}

/-! ### Looking the tool up -/

/-- The call that looks the tool up. -/
def lookupCall (options : AcquireOptions) : Call :=
  .lookup options.host options.port options.binding

/-- What a lookup gives, given the calls before it. -/
def lookupAnswer (s : Surroundings) (options : AcquireOptions) (history : History) :
    Except LookupFault ToolRef :=
  match (s.verdict history (lookupCall options)).fault? with
  | none => s.registry history options.host options.port options.binding
  | some fault => .error (.unreachable fault.message)

/-- A lookup as it is noted. -/
def lookupRecord (s : Surroundings) (options : AcquireOptions) (history : History) : CallRecord :=
  ⟨lookupCall options, s.verdict history (lookupCall options)⟩

/-- A lookup leaves nothing but the note of it. -/
theorem lookupTool_outcome (options : AcquireOptions) :
    (lookupTool options : Action σ Failure _).outcome s w =
      some (.ok (lookupAnswer s options w.calls), w.withCall (lookupRecord s options w.calls)) := by
  unfold lookupTool lookup lookupAnswer lookupRecord lookupCall
  rw [outcome_attempt, outcome_bind, outcome_mapFailure, outcome_perform]
  cases hfault : (s.verdict w.calls (.lookup options.host options.port options.binding)).fault? with
  | none =>
      rw [Verdict.fault?_eq_none.mp hfault]
      cases hanswer : s.registry w.calls options.host options.port options.binding with
      | ok tool => simp [outcome_map, Except.map, mapError_ok, hanswer]
      | error fault => simp [outcome_map, Except.map, mapError_ok, hanswer]
  | some fault => simp [mapError_error]

theorem lookup_asks (s : Surroundings) (options : AcquireOptions) (w : World σ) :
    Asks w [lookupRecord s options w.calls] (w.withCall (lookupRecord s options w.calls)) :=
  .of_call w _ rfl

/-! ### A loop by its rounds -/

/-- Waiting in rounds. -/
structure Rounds (α : Type) where
  /-- The call of each round. -/
  call : Call
  /-- What a round finds, given the calls before it. -/
  answer : History → Option α
  /-- When the time is up, if it ever is. -/
  deadline : Option Millis
  /-- The failure when the time is up. -/
  late : Failure
  /-- How long the pause between two rounds is to last. -/
  interval : Millis
  /-- What the pauses are for. -/
  activity : String

/-- Waiting until a tool is ready. -/
def readinessRounds (s : Surroundings) (options : ReadinessOptions) (tool : ToolRef)
    (deadline : Option Millis) : Rounds Unit where
  call := .isReady tool
  answer history := if foundReady s tool history then some () else none
  deadline := deadline
  late := .readinessTimeout options.timeout
  interval := options.interval
  activity := "waiting for TPT to become ready"

/-- Waiting until the tool has registered. -/
def registrationRounds (s : Surroundings) (options : AcquireOptions) (deadline : Option Millis) :
    Rounds ToolRef where
  call := lookupCall options
  answer history := (lookupAnswer s options history).toOption
  deadline := deadline
  late := .startupTimeout options.host options.port options.binding options.startupTimeout
  interval := options.lookupInterval
  activity := "waiting for TPT to start"

theorem registrationRounds_answer {deadline : Option Millis} {history : History}
    {tool : ToolRef} : (registrationRounds s options deadline).answer history = some tool ↔
      lookupAnswer s options history = .ok tool := by
  show (lookupAnswer s options history).toOption = some tool ↔ _
  cases lookupAnswer s options history <;> simp [Except.toOption]

theorem readinessRounds_answer {deadline : Option Millis} {history : History} {tool : ToolRef}
    {options : ReadinessOptions} {a : Unit} :
    (readinessRounds s options tool deadline).answer history = some a ↔
      foundReady s tool history = true := by
  simp [readinessRounds]

namespace Rounds

variable {p : Rounds α}

/-- How waiting in rounds ends: with a value or a failure of its own, or with neither because
the user interrupts. -/
inductive Ends (p : Rounds α) (s : Surroundings) :
    World σ → Option (Except Failure α) → World σ → Prop
  /-- The round finds what is waited for. -/
  | found {w w' : World σ} {a} (given : p.answer w.calls = some a)
      (asks : Asks w [⟨p.call, s.verdict w.calls p.call⟩] w') : Ends p s w (some (.ok a)) w'
  /-- It does not, and the time is up. -/
  | late {w w' : World σ} (missed : p.answer w.calls = none)
      (past : p.deadline.any (· ≤ w.now) = true)
      (asks : Asks w [⟨p.call, s.verdict w.calls p.call⟩] w') :
      Ends p s w (some (.error p.late)) w'
  /-- There is time left, but the user interrupts the pause. -/
  | interrupted {w w₁ w' : World σ} {failure} (missed : p.answer w.calls = none)
      (inTime : p.deadline.any (· ≤ w.now) = false)
      (asks : Asks w [⟨p.call, s.verdict w.calls p.call⟩] w₁)
      (pause : (pause p.interval p.activity).outcome s w₁ = some (.error failure, w')) :
      Ends p s w none w'
  /-- There is time left, and the next round follows after the pause. -/
  | again {w w₁ w₂ w' : World σ} {ended} (missed : p.answer w.calls = none)
      (inTime : p.deadline.any (· ≤ w.now) = false)
      (asks : Asks w [⟨p.call, s.verdict w.calls p.call⟩] w₁)
      (pause : (pause p.interval p.activity).outcome s w₁ = some (.ok (), w₂))
      (rest : Ends p s w₂ ended w') : Ends p s w ended w'

/-- The result of a loop that has ended so. -/
def result (p : Rounds α) (ended : Option (Except Failure α)) : Except Failure α :=
  ended.getD (.error (.interrupted p.activity))

end Rounds

/-- Only a round that finds something gives a value. -/
theorem Rounds.result_eq_ok {p : Rounds α} {ended : Option (Except Failure α)} {a : α} :
    p.result ended = .ok a ↔ ended = some (.ok a) := by
  cases ended with
  | none => simp [result]
  | some r => simp [result]

/-- A pause that fails was interrupted. -/
theorem pause_error {interval : Millis} {activity : String} {failure : Failure}
    (h : (pause interval activity).outcome s w = some (.error failure, w')) :
    failure = .interrupted activity := by
  rcases pause_cases h with ⟨hr, -⟩ | ⟨_, _, -, hr, -⟩
  · cases hr
  · cases hr
    rfl

/-- Waiting for the tool to register is waiting in rounds. -/
theorem awaitRegistration_rounds {deadline : Option Millis} {rounds : Nat}
    {r : Except Failure ToolRef}
    (h : (awaitRegistration options deadline rounds).outcome s w = some (r, w')) :
    ∃ ended, (registrationRounds s options deadline).Ends s w ended w' ∧
      r = (registrationRounds s options deadline).result ended := by
  induction rounds generalizing w with
  | zero => cases h
  | succ rounds ih =>
      have hasks := lookup_asks s options w
      rw [awaitRegistration, outcome_bind, lookupTool_outcome, Option.bind_some] at h
      cases hanswer : lookupAnswer s options w.calls with
      | ok tool =>
          rw [hanswer] at h
          have h := note_bind_cases h
          simp only [outcome_pure, Option.some.injEq, Prod.mk.injEq] at h
          obtain ⟨rfl, rfl⟩ := h
          have hfound : (registrationRounds s options deadline).answer w.calls = some tool := by
            simp [registrationRounds, hanswer, Except.toOption]
          exact ⟨_, .found hfound (hasks.trans (.of_note _ _)), rfl⟩
      | error fault =>
          rw [hanswer] at h
          have hmissed : (registrationRounds s options deadline).answer w.calls = none := by
            simp [registrationRounds, hanswer, Except.toOption]
          dsimp only at h
          rw [outcome_bind, outcome_isOver, Option.bind_some] at h
          dsimp only at h
          split at h
          · rename_i hover
            simp only [outcome_bind, outcome_note, outcome_throw, Option.bind_some,
              Option.some.injEq, Prod.mk.injEq] at h
            obtain ⟨rfl, rfl⟩ := h
            exact ⟨_, .late hmissed hover (hasks.trans (.of_note _ _)), rfl⟩
          · rename_i hnot
            rw [Bool.not_eq_true] at hnot
            rcases bind_cases h with ⟨⟨⟩, w₁, hpause, h⟩ | ⟨failure, hpause, rfl⟩
            · obtain ⟨ended, hends, hr⟩ := ih h
              exact ⟨ended, .again hmissed hnot hasks hpause hends, hr⟩
            · refine ⟨none, .interrupted hmissed hnot hasks hpause, ?_⟩
              rw [pause_error hpause]
              rfl

/-- After a question that did not find the tool ready, the rest is waiting in rounds as well. -/
theorem awaitReady_rounds {tool : ToolRef} {options : ReadinessOptions} {deadline : Option Millis}
    {rounds : Nat} {r : Except Failure Unit} {w₁ : World σ}
    (hmissed : (readinessRounds s options tool deadline).answer w.calls = none)
    (hasks : Asks w [⟨.isReady tool, s.verdict w.calls (.isReady tool)⟩] w₁)
    (h : (awaitReady tool options deadline rounds).outcome s w₁ = some (r, w')) :
    ∃ ended, (readinessRounds s options tool deadline).Ends s w ended w' ∧
      r = (readinessRounds s options tool deadline).result ended := by
  induction rounds generalizing w w₁ with
  | zero => cases h
  | succ rounds ih =>
      -- The question took no time.
      have hnow : w₁.now = w.now := by rw [hasks.same]
      rw [awaitReady, outcome_bind, outcome_isOver, Option.bind_some, hnow] at h
      dsimp only at h
      split at h
      · rename_i hover
        simp only [outcome_bind, outcome_note, outcome_throw, Option.bind_some,
          Option.some.injEq, Prod.mk.injEq] at h
        obtain ⟨rfl, rfl⟩ := h
        exact ⟨_, .late hmissed hover (hasks.trans (.of_note _ _)), rfl⟩
      · rename_i hnot
        rw [Bool.not_eq_true] at hnot
        rcases bind_cases h with ⟨⟨⟩, w₂, hpause, h⟩ | ⟨failure, hpause, rfl⟩
        · obtain ⟨w₃, hprobe, hasked⟩ := probe_outcome (s := s) (w := w₂) tool
          rw [outcome_bind, hprobe, Option.bind_some] at h
          dsimp only at h
          split at h
          · rename_i hready
            simp only [outcome_pure, Option.some.injEq, Prod.mk.injEq] at h
            obtain ⟨rfl, rfl⟩ := h
            have hfound : (readinessRounds s options tool deadline).answer w₂.calls = some () :=
              if_pos hready
            exact ⟨_, .again hmissed hnot hasks hpause (.found hfound hasked), rfl⟩
          · rename_i hready
            obtain ⟨ended, hends, hr⟩ := ih (if_neg hready) hasked h
            exact ⟨ended, .again hmissed hnot hasks hpause hends, hr⟩
        · refine ⟨none, .interrupted hmissed hnot hasks hpause, ?_⟩
          rw [pause_error hpause]
          rfl

/-- Waiting until the tool is ready is waiting in rounds. -/
theorem waitUntilReady_rounds {tool : ToolRef} {options : ReadinessOptions}
    {r : Except Failure Unit} (h : (waitUntilReady options tool).outcome s w = some (r, w')) :
    ∃ ended,
      (readinessRounds s options tool (momentAfter w.now options.timeout)).Ends s w ended w' ∧
      r = (readinessRounds s options tool (momentAfter w.now options.timeout)).result ended := by
  obtain ⟨w₁, hprobe, hasks⟩ := probe_outcome (s := s) (w := w) tool
  rw [waitUntilReady, outcome_bind, hprobe, Option.bind_some] at h
  dsimp only at h
  split at h
  · rename_i hready
    simp only [outcome_pure, Option.some.injEq, Prod.mk.injEq] at h
    obtain ⟨rfl, rfl⟩ := h
    exact ⟨_, .found (if_pos hready) hasks, rfl⟩
  · rename_i hready
    have h := note_bind_cases h
    simp only [outcome_bind, outcome_get, outcome_read, Option.bind_some] at h
    have hnow : w₁.now = w.now := by rw [hasks.same]
    rw [← hnow]
    exact awaitReady_rounds (if_neg hready) (hasks.trans (.of_note _ _)) h

/-! ### What the rounds come to -/

/-- The user cuts a pause short that begins at a time: it is interrupted before, or by its end. -/
def CutsPause (interval start moment : Millis) : Prop :=
  moment ≤ start ∨ moment < wakeAt start interval

/-- The user interrupts a wait that begins at a time: a pause is cut short, and it is one that
begins before the deadline. -/
def DuringWait (deadline : Option Millis) (interval start moment : Millis) : Prop :=
  ∃ number, deadline.any (· ≤ afterPauses interval start number) = false ∧
    CutsPause interval (afterPauses interval start number) moment

/-- A pause that lasts to its end is not cut short. -/
theorem not_cutsPause {interval moment : Millis} {activity : String}
    (h : (pause interval activity).outcome s w = some (.ok (), w'))
    (hmoment : s.interruptAt = some moment) : ¬CutsPause interval w.now moment := by
  rcases pause_cases h with ⟨-, -, hlasts⟩ | ⟨_, _, -, hr, -⟩
  · obtain ⟨hlater, hend⟩ := hlasts moment hmoment
    rintro (hbefore | hduring)
    · exact absurd hlater (Nat.not_lt_of_le hbefore)
    · exact absurd hend (Nat.not_le_of_lt hduring)
  · cases hr

/-- One that fails is. -/
theorem exists_cutsPause {interval : Millis} {activity : String} {failure : Failure}
    (h : (pause interval activity).outcome s w = some (.error failure, w')) :
    ∃ moment, s.interruptAt = some moment ∧ CutsPause interval w.now moment := by
  rcases pause_cases h with ⟨hr, -⟩ | ⟨moment, _, hmoment, -, ⟨hbefore, -⟩ | ⟨hduring, -⟩, -⟩
  · cases hr
  · exact ⟨moment, hmoment, .inl hbefore⟩
  · exact ⟨moment, hmoment, .inr hduring.2⟩

/-- A deadline that has come stays behind. -/
theorem past_of_le {deadline : Option Millis} {now later : Millis}
    (h : deadline.any (· ≤ now) = true) (hle : now ≤ later) :
    deadline.any (· ≤ later) = true := by
  cases deadline with
  | none => cases h
  | some stop => exact decide_eq_true (Nat.le_trans (of_decide_eq_true h) hle)

namespace Rounds

variable {p : Rounds α} {ended : Option (Except Failure α)}

/-- The history when the round of a number is made, counted from 0. -/
def asked (p : Rounds α) (s : Surroundings) (w : World σ) (number : Nat) : History :=
  History.repeated s p.call w.calls number

/-- The rounds make their calls while time passes. If they give a value, the last call has found
it. -/
theorem Ends.passes (h : p.Ends s w ended w') (sort : Call → Bool) :
    ∃ made, Passes w made w' ∧ (∀ record ∈ made, record.call = p.call) ∧
      ∀ a, ended = some (.ok a) → made.LastAnswer w.calls sort p.call (p.answer · = some a) := by
  induction h with
  | found given asks =>
      refine ⟨_, asks.passes, by simp, fun a ha => ?_⟩
      cases ha
      exact .one given
  | late missed past asks => exact ⟨_, asks.passes, by simp, fun a ha => by cases ha⟩
  | interrupted missed inTime asks pause =>
      exact ⟨_, asks.passes.trans (pause_passes pause), by simp, fun a ha => by cases ha⟩
  | again missed inTime asks pause rest ih =>
      have hpassed := asks.passes.trans (pause_passes pause)
      obtain ⟨made, hlater, hmade, hlast⟩ := ih
      refine ⟨_, hpassed.trans hlater, by simpa [or_imp, forall_and] using hmade, fun a ha => ?_⟩
      have hlast := hlast a ha
      rw [hpassed.calls] at hlast
      exact hlast.of_append

/-- The rounds go on until one finds what is waited for, or misses it when the time is up, or the
user interrupts the pause after it. By induction on how they end, one round after the other. -/
theorem Ends.reached (h : p.Ends s w ended w') :
    ∃ number, (∀ earlier < number, p.answer (p.asked s w earlier) = none ∧
        p.deadline.any (· ≤ afterPauses p.interval w.now earlier) = false ∧
        ∀ moment, s.interruptAt = some moment →
          ¬CutsPause p.interval (afterPauses p.interval w.now earlier) moment) ∧
      ((w'.calls = p.asked s w (number + 1) ∧ w'.now = afterPauses p.interval w.now number ∧
          ((∃ a, p.answer (p.asked s w number) = some a ∧ ended = some (.ok a)) ∨
            p.answer (p.asked s w number) = none ∧
              p.deadline.any (· ≤ afterPauses p.interval w.now number) = true ∧
              ended = some (.error p.late))) ∨
        ended = none ∧ p.deadline.any (· ≤ afterPauses p.interval w.now number) = false ∧
          ∃ moment, s.interruptAt = some moment ∧
            CutsPause p.interval (afterPauses p.interval w.now number) moment) := by
  have hnone {number : Nat} : ¬number < 0 := Nat.not_lt_zero number
  induction h with
  | found given asks =>
      refine ⟨0, fun _ hlt => absurd hlt hnone, .inl ⟨asks.passes.calls, ?_, .inl ⟨_, given, rfl⟩⟩⟩
      rw [asks.same]
      rfl
  | late missed past asks =>
      refine ⟨0, fun _ hlt => absurd hlt hnone, .inl ⟨asks.passes.calls, ?_,
        .inr ⟨missed, past, rfl⟩⟩⟩
      rw [asks.same]
      rfl
  | interrupted missed inTime asks pause =>
      obtain ⟨moment, hmoment, hcut⟩ := exists_cutsPause pause
      rw [asks.same] at hcut
      exact ⟨0, fun _ hlt => absurd hlt hnone, .inr ⟨rfl, inTime, moment, hmoment, hcut⟩⟩
  | @again w w₁ w₂ w' ended missed inTime asks pause rest ih =>
      obtain ⟨number, hearlier, hend⟩ := ih
      -- Where the rest begins, one round has been made and one pause has passed.
      have hnow₂ : w₂.now = wakeAt w.now p.interval := by
        rcases pause_cases pause with ⟨-, rfl, -⟩ | ⟨_, _, -, hr, -⟩
        · rw [advance_now, asks.same]
        · cases hr
      have hasked (count : Nat) : p.asked s w₂ count = p.asked s w (count + 1) := by
        have hcalls₂ := (asks.passes.trans (pause_passes pause)).calls
        rw [asked, asked, hcalls₂]
        exact History.repeated_cons count
      simp only [hasked, hnow₂, afterPauses_wakeAt] at hearlier hend
      refine ⟨number + 1, fun earlier hlt => ?_, hend⟩
      cases earlier with
      | zero =>
          refine ⟨missed, inTime, fun moment hmoment => ?_⟩
          have hlasts := not_cutsPause pause hmoment
          rwa [asks.same] at hlasts
      | succ earlier => exact hearlier earlier (Nat.lt_of_succ_lt_succ hlt)

/-- Where no later call finds what is waited for, the loop is interrupted if the user interrupts
during the wait, and otherwise the time is up. -/
theorem Ends.missed (h : p.Ends s w ended w')
    (hnever : ∀ later, p.answer (later ++ w.calls) = none) :
    (∀ moment, s.interruptAt = some moment →
        DuringWait p.deadline p.interval w.now moment → ended = none) ∧
      ((∀ moment, s.interruptAt = some moment →
        ¬DuringWait p.deadline p.interval w.now moment) → ended = some (.error p.late)) := by
  obtain ⟨number, hearlier, ⟨-, -, ⟨a, hfound, -⟩ | ⟨-, hpast, rfl⟩⟩ |
    ⟨rfl, hintime, moment, hmoment, hcut⟩⟩ := h.reached
  · obtain ⟨later, hlater⟩ := History.exists_repeated s p.call w.calls number
    rw [asked, hlater, hnever later] at hfound
    cases hfound
  · refine ⟨fun moment hmoment ⟨k, hk, hcut⟩ => ?_, fun _ => rfl⟩
    -- The pause begins before the deadline, so it is one of those before the last round.
    have hbefore : k < number := by
      refine Nat.lt_of_not_le fun hle => ne_true_of_eq_false hk ?_
      exact past_of_le hpast (afterPauses_mono p.interval w.now hle)
    exact absurd hcut ((hearlier k hbefore).2.2 moment hmoment)
  · exact ⟨fun _ _ _ => rfl, fun hnot => absurd ⟨number, hintime, hcut⟩ (hnot moment hmoment)⟩

end Rounds

/-! ### Waiting for the tool to register ends -/

/-- A round of waiting ends if all later rounds do. -/
theorem awaitRegistration_ends_succ {deadline : Option Millis} {rounds : Nat}
    (hlater : ∀ w₁ : World σ, deadline.any (· ≤ w.now) = false →
      (pause options.lookupInterval "waiting for TPT to start").outcome s
        (w.withCall (lookupRecord s options w.calls)) = some (.ok (), w₁) →
      ((awaitRegistration options deadline rounds).outcome s w₁).isSome) :
    ((awaitRegistration options deadline (rounds + 1)).outcome s w).isSome := by
  rw [awaitRegistration, outcome_bind, lookupTool_outcome, Option.bind_some]
  cases lookupAnswer s options w.calls with
  | ok tool => rfl
  | error fault =>
      dsimp only
      rw [outcome_bind, outcome_isOver, Option.bind_some]
      dsimp only
      split
      · rfl
      · rename_i hnot
        rw [Bool.not_eq_true] at hnot
        obtain ⟨⟨r, w₁⟩, hpause⟩ := Option.isSome_iff_exists.mp
          (pause_ends (s := s) options.lookupInterval "waiting for TPT to start"
            (w.withCall (lookupRecord s options w.calls)))
        rw [outcome_bind, hpause, Option.bind_some]
        cases r with
        | error failure => rfl
        | ok => exact hlater w₁ hnot hpause

theorem awaitRegistration_ends {deadline : Option Millis} {rounds : Nat}
    (h : OverWithin s deadline (rounds * min options.lookupInterval longPause) w) :
    ((awaitRegistration options deadline (rounds + 1)).outcome s w).isSome := by
  -- The lookup takes no time.
  have hasked : OverWithin s deadline (rounds * min options.lookupInterval longPause)
      (w.withCall (lookupRecord s options w.calls)) := h
  induction rounds generalizing w with
  | zero =>
      rw [Nat.zero_mul] at hasked
      exact awaitRegistration_ends_succ fun w₁ hnot hpause => absurd hpause (hasked.not_pause hnot)
  | succ rounds ih =>
      refine awaitRegistration_ends_succ fun w₁ _ hpause => ?_
      have hlater := hasked.after_pause hpause
      exact ih hlater hlater


end CaseRunner.Connection
