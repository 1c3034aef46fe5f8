import CaseRunner.Proofs.Remote.Outcome

/-!
# `CaseRunner.Proofs.Remote.Ending`: activities that come to their end

An activity that `Ends` has an outcome in every world. Calls and notes do, and what is put
together from activities that end does too. A pause ends, and one that is not interrupted
brings the end nearer: `pause_ok` says how much time has passed then.
-/

set_option autoImplicit false

namespace CaseRunner

variable {σ ε ε' α β : Type}

/-! ### Activities that end -/

/-- The activity with files comes to its end, whatever the files are. -/
def FileAction.Ends (x : FileAction σ α) : Prop := ∀ ws, (x.run.run ws).isSome

theorem FileAction.Ends.bind {x : FileAction σ α} {f : α → FileAction σ β} (hx : x.Ends)
    (hf : ∀ a, (f a).Ends) : FileAction.Ends (x >>= f) := by
  intro ws
  obtain ⟨⟨result, ws₁⟩, hresult⟩ := Option.isSome_iff_exists.mp (hx ws)
  rw [FileAction.run_bind, hresult, Option.bind_some]
  cases result with
  | error failure => rfl
  | ok a => exact hf a ws₁

namespace Remote.Action

variable {s : Surroundings} {x : Action σ ε α} {f : α → Action σ ε β}

/-- The activity comes to its end, in whatever world it begins. -/
def Ends (s : Surroundings) (x : Action σ ε α) : Prop := ∀ w, (x.outcome s w).isSome

theorem ends_pure (a : α) : Ends s (pure a : Action σ ε α) := fun _ => rfl

theorem ends_throw (e : ε) : Ends s (throw e : Action σ ε α) := fun _ => rfl

theorem ends_get : Ends s (get : Action σ ε (World σ)) := fun _ => rfl

theorem ends_modify (change : World σ → World σ) : Ends s (modify change : Action σ ε Unit) :=
  fun _ => rfl

theorem ends_note (severity : Journal.Severity) (origin : Journal.Origin) (message : String)
    (fields : List (String × String)) :
    Ends s (note severity origin message fields : Action σ ε Unit) := fun _ => rfl

theorem Ends.bind (hx : Ends s x) (hf : ∀ a, Ends s (f a)) : Ends s (x >>= f) := by
  intro w
  obtain ⟨⟨result, w₁⟩, hresult⟩ := Option.isSome_iff_exists.mp (hx w)
  rw [outcome_bind, hresult, Option.bind_some]
  cases result with
  | error e => rfl
  | ok a => exact hf a w₁

/-- What is read are the surroundings, so only these have to be looked at. -/
theorem ends_read_bind {f : Surroundings → Action σ ε β} (hf : Ends s (f s)) :
    Ends s (read >>= f) := by
  intro w
  rw [outcome_bind, outcome_read, Option.bind_some]
  exact hf w

theorem Ends.attempt (hx : Ends s x) : Ends s (attempt x : Action σ ε' (Except ε α)) := by
  intro w
  rw [outcome_attempt, Option.isSome_map]
  exact hx w

theorem Ends.mapFailure {g : ε → ε'} (hx : Ends s x) : Ends s (mapFailure g x) := by
  intro w
  rw [outcome_mapFailure, Option.isSome_map]
  exact hx w

theorem ends_ofFiles {x : FileAction σ α} (hx : x.Ends) : Ends s (ofFiles x) := by
  intro w
  rw [outcome_ofFiles, Option.isSome_map]
  exact hx _

/-- A call ends if what the tool does ends. -/
theorem ends_perform {call : Call} {effect : History → Action σ RemoteFault α}
    (h : ∀ history, Ends s (effect history)) : Ends s (perform call effect) := by
  intro w
  rw [outcome_perform]
  cases (s.verdict w.calls call).fault? with
  | none => exact h _ _
  | some fault => rfl

theorem ends_query (call : Call) (answer : World σ → α) : Ends s (query call answer) :=
  ends_perform fun _ => ends_get.bind fun w => ends_pure (answer w)

theorem ends_command (call : Call) (change : World σ → World σ) : Ends s (command call change) :=
  ends_perform fun _ => ends_modify change

end Remote.Action

/-! ### Pauses -/

namespace Remote

open CaseRunner.Config (Millis)
open CaseRunner.Remote.Action

variable {s : Surroundings} {w : World σ}

theorem pause_ends (interval : Millis) (activity : String) :
    Ends s (pause interval activity : Action σ Failure Unit) := by
  have hinterrupted : Ends s (interrupted activity : Action σ Failure Unit) :=
    (ends_note _ _ _ _).bind fun _ => ends_throw _
  intro w
  unfold pause
  simp only [outcome_bind, outcome_get, outcome_read, Option.bind_some]
  cases s.interruptAt with
  | none => rfl
  | some moment =>
      dsimp only
      split
      · exact hinterrupted w
      · split
        · exact (ends_modify _).bind (fun _ => hinterrupted) w
        · rfl

/-- A process that goes on meanwhile has no part in the time. -/
theorem advance_now (toJournal : Bool) (time : Millis) (w : World σ) :
    (w.advance toJournal time).now = time := by
  have htaken (reports : List Connection.DrainReport) (v : World σ) :
      (reports.foldl (World.takeReport toJournal) v).now = v.now := by
    induction reports generalizing v with
    | nil => rfl
    | cons report reports ih =>
        rw [List.foldl_cons, ih]
        unfold World.takeReport
        split
        · split <;> rfl
        · rfl
  unfold World.advance
  split
  · rfl
  · exact htaken _ _

/-- When a pause comes to its end if the user does not interrupt. -/
def wakeAt (now interval : Millis) : Millis := (momentAfter now interval).getD (now + longPause)

theorem le_wakeAt (now interval : Millis) : now + min interval longPause ≤ wakeAt now interval := by
  unfold wakeAt momentAfter
  split
  · exact Nat.add_le_add_left (Nat.min_le_left _ _) _
  · exact Nat.add_le_add_left (Nat.min_le_right _ _) _

/-- A pause lasts to its end, if the user has not interrupted by then. Otherwise the user
interrupts when it begins, or while it lasts. -/
theorem pause_cases {interval : Millis} {activity : String} {r : Except Failure Unit}
    {w' : World σ} (h : (pause interval activity).outcome s w = some (r, w')) :
    (r = .ok () ∧ w' = w.advance s.outputToJournal (wakeAt w.now interval) ∧
        ∀ moment, s.interruptAt = some moment →
          w.now < moment ∧ wakeAt w.now interval ≤ moment) ∨
      ∃ moment w₁, s.interruptAt = some moment ∧ r = .error (.interrupted activity) ∧
        (moment ≤ w.now ∧ w₁ = w ∨
          (w.now < moment ∧ moment < wakeAt w.now interval) ∧
            w₁ = w.advance s.outputToJournal moment) ∧
        ∃ entry, w' = { w₁ with toWorkspace := w₁.note entry } := by
  unfold pause at h
  simp only [outcome_bind, outcome_get, outcome_read, Option.bind_some] at h
  -- An interruption may not come at all, be there already, or come during the pause.
  cases hat : s.interruptAt with
  | none =>
      simp only [hat, outcome_modify, Option.some.injEq, Prod.mk.injEq] at h
      exact .inl ⟨h.1.symm, h.2.symm, fun moment hmoment => by cases hmoment⟩
  | some moment =>
      simp only [hat] at h
      split at h
      · rename_i hbefore
        simp only [interrupted, outcome_bind, outcome_note, outcome_throw, Option.bind_some,
          Option.some.injEq, Prod.mk.injEq] at h
        exact .inr ⟨moment, w, rfl, h.1.symm, .inl ⟨hbefore, rfl⟩, _, h.2.symm⟩
      · rename_i hafter
        split at h
        · rename_i hduring
          simp only [interrupted, outcome_bind, outcome_modify, outcome_note, outcome_throw,
            Option.bind_some, Option.some.injEq, Prod.mk.injEq] at h
          have hwhen := And.intro (Nat.lt_of_not_le hafter) hduring
          exact .inr ⟨moment, _, rfl, h.1.symm, .inr ⟨hwhen, rfl⟩, _, h.2.symm⟩
        · rename_i hlate
          simp only [outcome_modify, Option.some.injEq, Prod.mk.injEq] at h
          refine .inl ⟨h.1.symm, h.2.symm, fun other hother => ?_⟩
          cases hother
          exact ⟨Nat.lt_of_not_le hafter, Nat.le_of_not_lt hlate⟩

/-- After a pause that lasted to its end it is later by the interval. -/
theorem pause_now {interval : Millis} {activity : String} {w' : World σ}
    (h : (pause interval activity).outcome s w = some (.ok (), w')) :
    w.now + min interval longPause ≤ w'.now := by
  rcases pause_cases h with ⟨-, rfl, -⟩ | ⟨_, _, -, hr, -⟩
  · rw [advance_now]
    exact le_wakeAt _ _
  · cases hr

/-- A pause that lasts to its end does so before the user interrupts. -/
theorem pause_ok {moment interval : Millis} {activity : String} {w' : World σ}
    (hinterrupt : s.interruptAt = some moment)
    (h : (pause interval activity).outcome s w = some (.ok (), w')) :
    w.now < moment ∧ w.now + min interval longPause ≤ w'.now := by
  refine ⟨?_, pause_now h⟩
  rcases pause_cases h with ⟨-, -, huninterrupted⟩ | ⟨_, _, -, hr, -⟩
  · exact (huninterrupted moment hinterrupt).1
  · cases hr

end Remote

end CaseRunner
