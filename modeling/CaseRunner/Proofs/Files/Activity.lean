import CaseRunner.Workspace

/-!
# `CaseRunner.Proofs.Files.Activity`: activities with files, one step at a time

An activity with files is taken apart along the monad: `run_bind` hands the files that the
first part left to the second, and `note`, `tryAsk` and `change` each have an equation of their
own.

`Keeps` says that an activity leaves something true of the files, wherever it ends. There is one
lemma for each way to put activities together, so for a program it is shown by going through
its text. `Refines` says that whatever comes of one activity comes of another one too.
-/

set_option autoImplicit false

namespace CaseRunner

theorem mapError_ok {ε ε' α : Type} (f : ε → ε') (a : α) :
    Except.mapError f (.ok a) = .ok a := rfl

theorem mapError_error {ε ε' α : Type} (f : ε → ε') (e : ε) :
    Except.mapError f (.error e : Except ε α) = .error (f e) := rfl

/-- If two steps one after the other give a value, so does the first one. -/
theorem ok_of_bind {ε α β : Type} {x : Except ε α} {f : α → Except ε β} {b : β}
    (h : (x >>= f) = .ok b) : ∃ a, x = .ok a ∧ f a = .ok b := by
  cases x with
  | error fault => cases h
  | ok a => exact ⟨a, rfl, h⟩

/-! ### Equations along the monad -/

/-- The second change goes on with the files that the first one left, unless that failed. -/
theorem Files.Change.run_bind {σ α β : Type} (x : Change σ α) (f : α → Change σ β) (files : σ) :
    (x >>= f).run.run files =
      match x.run.run files with
      | (.error fault, next) => (.error fault, next)
      | (.ok a, next) => (f a).run.run next := by
  rw [ExceptT.run_bind, StateT.run_bind]
  rcases x.run.run files with ⟨_ | _, next⟩ <;> rfl

namespace FileAction

variable {σ α β : Type} (ws : Workspace σ)

@[simp] theorem run_pure (a : α) : (pure a : FileAction σ α).run.run ws = some (.ok a, ws) := rfl

/-- The second part goes on with the files that the first part left, unless that failed. -/
theorem run_bind (x : FileAction σ α) (f : α → FileAction σ β) :
    (x >>= f).run.run ws = (x.run.run ws).bind fun p =>
      match p with
      | (.ok a, ws₁) => (f a).run.run ws₁
      | (.error e, ws₁) => some (.error e, ws₁) := by
  show Option.bind (x.run.run ws) _ = _
  rcases x.run.run ws with _ | ⟨_ | _, _⟩ <;> rfl

@[simp] theorem run_note (severity : Journal.Severity) (origin : Journal.Origin)
    (message : String) (fields : List (String × String)) :
    (note severity origin message fields : FileAction σ Unit).run.run ws =
      some (.ok (), ws.note ⟨severity, origin, message, fields⟩) := rfl

/-- A question leaves the files as they are. -/
@[simp] theorem run_ask (question : σ → α) :
    (ask question).run.run ws = some (.ok (question ws.files), ws) := rfl

@[simp] theorem run_tryAsk (question : σ → Except Files.FileFault α) :
    (tryAsk question).run.run ws = some ((question ws.files).mapError (·.failure), ws) := by
  have hget : (get : FileAction σ (Workspace σ)).run.run ws = some (.ok ws, ws) := rfl
  rw [tryAsk, run_bind, hget, Option.bind_some]
  dsimp only
  cases question ws.files <;> rfl

@[simp] theorem run_change (change : Files.Change σ α) :
    (FileAction.change change).run.run ws =
      some ((change.run.run ws.files).1.mapError (·.failure),
        { ws with files := (change.run.run ws.files).2 }) := rfl

/-! ### What stays true of the files -/

/-- What is true of the files before the activity is true of them where it ends, whether it
fails or not. -/
def Keeps (I : σ → Prop) (x : FileAction σ α) : Prop :=
  ∀ ⦃ws ws' : Workspace σ⦄ ⦃r : Except Failure α⦄,
    I ws.files → x.run.run ws = some (r, ws') → I ws'.files

variable {I : σ → Prop}

theorem keeps_pure (a : α) : Keeps I (pure a) := by
  intro ws ws' r hbefore h
  cases h
  exact hbefore

theorem keeps_throw (failure : Failure) : Keeps I (throw failure : FileAction σ α) := by
  intro ws ws' r hbefore h
  cases h
  exact hbefore

/-- What does not end leaves nothing to be said. -/
theorem keeps_unfinished : Keeps I (unfinished : FileAction σ α) := by
  intro ws ws' r hbefore h
  cases h

theorem keeps_note (severity : Journal.Severity) (origin : Journal.Origin) (message : String)
    (fields : List (String × String)) : Keeps I (note severity origin message fields) := by
  intro ws ws' r hbefore h
  cases h
  exact hbefore

theorem keeps_ask (question : σ → α) : Keeps I (ask question) := by
  intro ws ws' r hbefore h
  cases h
  exact hbefore

theorem Keeps.bind {x : FileAction σ α} {f : α → FileAction σ β} (hx : Keeps I x)
    (hf : ∀ a, Keeps I (f a)) : Keeps I (x >>= f) := by
  intro ws ws' r hbefore h
  rw [run_bind] at h
  obtain ⟨⟨answer, between⟩, hfirst, hsecond⟩ := Option.bind_eq_some_iff.mp h
  have hbetween := hx hbefore hfirst
  cases answer with
  | error failure =>
      cases hsecond
      exact hbetween
  | ok a => exact hf a hbetween hsecond

/-- An activity goes on with what was answered from the files that it has. -/
theorem keeps_tryAsk_bind {question : σ → Except Files.FileFault α} {f : α → FileAction σ β}
    (h : ∀ files a, I files → question files = .ok a → Keeps I (f a)) :
    Keeps I (tryAsk question >>= f) := by
  intro ws ws' r hbefore hrun
  rw [run_bind, run_tryAsk, Option.bind_some] at hrun
  cases hanswer : question ws.files with
  | error fault =>
      rw [hanswer] at hrun
      cases hrun
      exact hbefore
  | ok a =>
      rw [hanswer] at hrun
      exact h ws.files a hbefore hanswer hbefore hrun

theorem keeps_ask_bind {question : σ → α} {f : α → FileAction σ β}
    (h : ∀ files, I files → Keeps I (f (question files))) : Keeps I (ask question >>= f) := by
  intro ws ws' r hbefore hrun
  rw [run_bind, run_ask, Option.bind_some] at hrun
  exact h ws.files hbefore hbefore hrun

theorem keeps_change {change : Files.Change σ α}
    (h : ∀ files, I files → I (change.run.run files).2) : Keeps I (FileAction.change change) := by
  intro ws ws' r hbefore hrun
  rw [run_change] at hrun
  cases hrun
  exact h ws.files hbefore

/-! ### Activities with the same outcome -/

/-- What comes of the first activity comes of the second one too. -/
def Refines (x y : FileAction σ α) : Prop :=
  ∀ ⦃ws out⦄, x.run.run ws = some out → y.run.run ws = some out

theorem Refines.refl (x : FileAction σ α) : Refines x x := fun _ _ h => h

theorem Refines.bind {x y : FileAction σ α} {f g : α → FileAction σ β} (hx : Refines x y)
    (hf : ∀ a, Refines (f a) (g a)) : Refines (x >>= f) (y >>= g) := by
  intro ws out h
  rw [run_bind] at h ⊢
  obtain ⟨⟨answer, between⟩, hfirst, hsecond⟩ := Option.bind_eq_some_iff.mp h
  rw [hx hfirst, Option.bind_some]
  cases answer with
  | error failure => exact hsecond
  | ok a => exact hf a hsecond

end FileAction

end CaseRunner
