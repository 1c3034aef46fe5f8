import CaseRunner.Proofs.Files.Activity
import CaseRunner.Remote.Tool

/-!
# `CaseRunner.Proofs.Remote.Outcome`: outcomes, one step of an activity at a time

`Action.outcome` runs an activity to its end. The equations here take it apart along the
monad: `outcome_bind` hands the world of the first part to the second, and `attempt`,
`mapFailure`, `note` and `ofFiles` each have an equation of their own.

* `bind_cases` reads `outcome_bind` backwards, for an outcome that is known.
* `perform_cases`, `query_cases`, `command_cases`: a call that is granted has its effect
  in the world where it has been noted. A call that is not granted fails, and the note of
  it is the only trace it leaves.
-/

set_option autoImplicit false

namespace CaseRunner.Remote

variable {σ ε ε' α β : Type} {s : Surroundings} {w w' : World σ}

/-- The world in which one more call has been noted. -/
def World.withCall (w : World σ) (record : CallRecord) : World σ :=
  { w with calls := record :: w.calls }

/-- The fault that a verdict stands for. -/
def Verdict.fault? : Verdict → Option RemoteFault
  | .granted => none
  | .lost fault => some fault
  | .refused fault => some fault

/-- Only a call that is granted has no fault. -/
theorem Verdict.fault?_eq_none {v : Verdict} : v.fault? = none ↔ v = .granted := by
  cases v <;> simp [Verdict.fault?]

namespace Action

/-! ### Equations along the monad -/

@[simp] theorem outcome_pure (a : α) :
    (pure a : Action σ ε α).outcome s w = some (.ok a, w) := rfl

@[simp] theorem outcome_throw (e : ε) :
    (throw e : Action σ ε α).outcome s w = some (.error e, w) := rfl

@[simp] theorem outcome_read :
    (read : Action σ ε Surroundings).outcome s w = some (.ok s, w) := rfl

@[simp] theorem outcome_get :
    (get : Action σ ε (World σ)).outcome s w = some (.ok w, w) := rfl

@[simp] theorem outcome_modify (f : World σ → World σ) :
    (modify f : Action σ ε Unit).outcome s w = some (.ok (), f w) := rfl

@[simp] theorem outcome_unfinished :
    (unfinished : Action σ ε α).outcome s w = none := rfl

@[simp] theorem outcome_note (severity : Journal.Severity) (origin : Journal.Origin)
    (message : String) (fields : List (String × String)) :
    (note severity origin message fields : Action σ ε Unit).outcome s w =
      some (.ok (), { w with toWorkspace := w.note ⟨severity, origin, message, fields⟩ }) := rfl

/-- The second part goes on in the world that the first part left, unless that failed. -/
theorem outcome_bind (x : Action σ ε α) (f : α → Action σ ε β) :
    (x >>= f).outcome s w = (x.outcome s w).bind fun p =>
      match p with
      | (.ok a, w₁) => (f a).outcome s w₁
      | (.error e, w₁) => some (.error e, w₁) := by
  -- Both sides match on the outcome of `x`: none, a failure or a value.
  show Option.bind (x.outcome s w) _ = _
  rcases x.outcome s w with _ | ⟨_ | _, _⟩ <;> rfl

/-- A pure function changes the value of an outcome alone. -/
theorem outcome_map (f : α → β) (x : Action σ ε α) :
    (f <$> x).outcome s w = (x.outcome s w).map fun p => (p.1.map f, p.2) := by
  show Option.bind (x.outcome s w) _ = _
  rcases x.outcome s w with _ | ⟨_ | _, _⟩ <;> rfl

/-- An attempt does not fail, and gives the failure as its value. -/
theorem outcome_attempt (x : Action σ ε α) :
    (attempt x : Action σ ε' (Except ε α)).outcome s w =
      (x.outcome s w).map fun p => (.ok p.1, p.2) := by
  show Option.bind (x.outcome s w) _ = _
  cases x.outcome s w <;> rfl

/-- Another kind of failure changes nothing in the world. -/
theorem outcome_mapFailure (f : ε → ε') (x : Action σ ε α) :
    (mapFailure f x).outcome s w = (x.outcome s w).map fun p => (p.1.mapError f, p.2) := by
  show Option.bind (x.outcome s w) _ = _
  cases x.outcome s w <;> rfl

/-- An activity with files alone works on the part of the world that holds them. -/
theorem outcome_ofFiles (x : FileAction σ α) :
    (ofFiles x).outcome s w =
      (x.run.run w.toWorkspace).map fun p => (p.1, { w with toWorkspace := p.2 }) := by
  dsimp only [outcome, ofFiles, ReaderT.run, ExceptT.run, ExceptT.mk, StateT.run]
  cases x w.toWorkspace <;> rfl

/-! ### Outcomes that are known -/

/-- Where two activities came to an end one after the other, the first did, and either the
second went on from its world or the first failed. -/
theorem bind_cases {x : Action σ ε α} {f : α → Action σ ε β} {r : Except ε β}
    (h : (x >>= f).outcome s w = some (r, w')) :
    (∃ a w₁, x.outcome s w = some (.ok a, w₁) ∧ (f a).outcome s w₁ = some (r, w')) ∨
      ∃ e, x.outcome s w = some (.error e, w') ∧ r = .error e := by
  rw [outcome_bind] at h
  rcases hx : x.outcome s w with _ | ⟨e | a, w₁⟩
  -- Without an end of the first part there is none of both.
  · simp [hx] at h
  · simp only [hx, Option.bind_some, Option.some.injEq, Prod.mk.injEq] at h
    obtain ⟨rfl, rfl⟩ := h
    exact .inr ⟨e, rfl, rfl⟩
  · simp only [hx, Option.bind_some] at h
    exact .inl ⟨a, w₁, rfl, h⟩

/-- An activity that noted something first came to its end in the world with the note. -/
theorem note_bind_cases {severity : Journal.Severity} {origin : Journal.Origin}
    {message : String} {fields : List (String × String)} {f : Unit → Action σ ε β}
    {r : Except ε β}
    (h : (note severity origin message fields >>= f).outcome s w = some (r, w')) :
    (f ()).outcome s { w with toWorkspace := w.note ⟨severity, origin, message, fields⟩ }
      = some (r, w') := by
  simpa [outcome_bind] using h

/-- An attempt ends as the activity does, and the next one goes on from there. -/
theorem attempt_bind_cases {x : Action σ ε α} {f : Except ε α → Action σ ε' β}
    {r : Except ε' β} (h : (attempt x >>= f).outcome s w = some (r, w')) :
    ∃ result w₁, x.outcome s w = some (result, w₁) ∧
      (f result).outcome s w₁ = some (r, w') := by
  rw [outcome_bind, outcome_attempt] at h
  rcases hx : x.outcome s w with _ | ⟨result, w₁⟩
  · simp [hx] at h
  · exact ⟨result, w₁, rfl, by simpa [hx] using h⟩

/-- Under another kind of failure an activity ended as it did. -/
theorem mapFailure_cases {f : ε → ε'} {x : Action σ ε α} {r : Except ε' α}
    (h : (mapFailure f x).outcome s w = some (r, w')) :
    ∃ result, x.outcome s w = some (result, w') ∧ r = result.mapError f := by
  rw [outcome_mapFailure, Option.map_eq_some_iff] at h
  obtain ⟨⟨result, w₁⟩, hx, heq⟩ := h
  simp only [Prod.mk.injEq] at heq
  obtain ⟨rfl, rfl⟩ := heq
  exact ⟨result, hx, rfl⟩

/-! ### Calls -/

/-- A call is noted; if it is granted its effect follows, else it fails. -/
theorem outcome_perform (call : Call) (effect : History → Action σ RemoteFault α) :
    (perform call effect).outcome s w =
      match (s.verdict w.calls call).fault? with
      | none => (effect w.calls).outcome s (w.withCall ⟨call, .granted⟩)
      | some fault => some (.error fault, w.withCall ⟨call, s.verdict w.calls call⟩) := by
  unfold perform
  simp only [outcome_bind, outcome_get, outcome_read, outcome_modify, Option.bind_some]
  cases h : s.verdict w.calls call <;> simp [Verdict.fault?, World.withCall]

/-- A call that was made was granted and had its effect, or else it failed and left the
note of it. -/
theorem perform_cases {call : Call} {effect : History → Action σ RemoteFault α}
    {r : Except RemoteFault α} (h : (perform call effect).outcome s w = some (r, w')) :
    (effect w.calls).outcome s (w.withCall ⟨call, .granted⟩) = some (r, w') ∨
      ∃ v fault, v ≠ .granted ∧ r = .error fault ∧ w' = w.withCall ⟨call, v⟩ := by
  rw [outcome_perform] at h
  cases hv : (s.verdict w.calls call).fault? with
  | none => exact .inl (by simpa [hv] using h)
  | some fault =>
      -- A verdict with a fault is not that of a granted call.
      simp only [hv, Option.some.injEq, Prod.mk.injEq] at h
      refine .inr ⟨s.verdict w.calls call, fault, fun hg => ?_, h.1.symm, h.2.symm⟩
      simp [Verdict.fault?_eq_none.mpr hg] at hv

/-- A question that was asked was answered from the world, or else it failed. -/
theorem query_cases {call : Call} {answer : World σ → α} {r : Except RemoteFault α}
    (h : (query call answer).outcome s w = some (r, w')) :
    (r = .ok (answer (w.withCall ⟨call, .granted⟩)) ∧ w' = w.withCall ⟨call, .granted⟩) ∨
      ∃ v fault, v ≠ .granted ∧ r = .error fault ∧ w' = w.withCall ⟨call, v⟩ := by
  rcases perform_cases h with h | h
  · left
    simpa [outcome_map, Except.map, eq_comm] using h
  · exact .inr h

/-- A command that was given was carried out, or else it failed. -/
theorem command_cases {call : Call} {change : World σ → World σ} {r : Except RemoteFault Unit}
    (h : (command call change).outcome s w = some (r, w')) :
    (r = .ok () ∧ w' = change (w.withCall ⟨call, .granted⟩)) ∨
      ∃ v fault, v ≠ .granted ∧ r = .error fault ∧ w' = w.withCall ⟨call, v⟩ := by
  rcases perform_cases h with h | h
  · left
    simpa [eq_comm] using h
  · exact .inr h

end Action

end CaseRunner.Remote
