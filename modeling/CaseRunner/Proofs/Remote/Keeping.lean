import CaseRunner.Proofs.Remote.Course
import CaseRunner.Proofs.Remote.Ending

/-!
# `CaseRunner.Proofs.Remote.Keeping`: what an activity has no part in

A view is a function of the world. `Keeps view x` says that the view is the same after the
activity `x` as before, whatever becomes of its calls and whether it fails or not. There is one
lemma for each way to put activities together, so for a program this is shown by going through
its text.

Every activity takes notes and makes calls, and in a pause time passes. A view that shows
nothing of that is `Timeless`, and then only the changes that the tool is asked for have to be
looked at.
-/

set_option autoImplicit false

namespace CaseRunner.Remote

open CaseRunner.Config (Millis)

variable {σ ε ε' α β γ : Type} {s : Surroundings} {w w' : World σ} {view : World σ → γ}

/-- The view shows nothing of the journal, the calls, the time and the output. -/
def Timeless (view : World σ → γ) : Prop :=
  ∀ w journal calls now process lines,
    view { w with
      journal := journal, calls := calls, now := now, process := process, lines := lines } = view w

namespace Timeless

/-- Questions do not show. -/
theorem asks {made : History} (hview : Timeless view) (h : Asks w made w') : view w' = view w := by
  rw [h.same]
  exact hview w _ _ w.now w.process w.lines

theorem withCall (hview : Timeless view) (w : World σ) (record : CallRecord) :
    view (w.withCall record) = view w := hview w w.journal _ w.now w.process w.lines

theorem noted (hview : Timeless view) (w : World σ) (entry : Journal.Entry) :
    view { w with toWorkspace := w.note entry } = view w :=
  hview w _ w.calls w.now w.process w.lines

/-- What a drain reports does not show. -/
theorem takeReport (hview : Timeless view) (toJournal : Bool) (w : World σ)
    (report : Connection.DrainReport) : view (w.takeReport toJournal report) = view w := by
  unfold World.takeReport
  split
  · split
    · exact hview.noted w _
    · exact hview w w.journal w.calls w.now w.process _
  · exact hview.noted w _

/-- Time that passes does not show. -/
theorem advance (hview : Timeless view) (toJournal : Bool) (time : Millis) (w : World σ) :
    view (w.advance toJournal time) = view w := by
  have hreports (reports : List Connection.DrainReport) (v : World σ) :
      view (reports.foldl (World.takeReport toJournal) v) = view v := by
    induction reports generalizing v with
    | nil => rfl
    | cons report reports ih => exact (ih _).trans (hview.takeReport toJournal v report)
  unfold World.advance
  split
  · exact hview w w.journal w.calls _ w.process w.lines
  · exact (hreports _ _).trans (hview w w.journal w.calls _ _ w.lines)

end Timeless

namespace Action

/-- Whatever becomes of the activity, the view is the same afterwards. -/
def Keeps (view : World σ → γ) (x : Action σ ε α) : Prop :=
  ∀ ⦃s w r w'⦄, x.outcome s w = some (r, w') → view w' = view w

/-! ### Activities put together -/

theorem keeps_pure (a : α) : Keeps view (pure a : Action σ ε α) := by
  intro s w r w' h
  cases h
  rfl

theorem keeps_throw (e : ε) : Keeps view (throw e : Action σ ε α) := by
  intro s w r w' h
  cases h
  rfl

/-- What does not end leaves nothing to be said. -/
theorem keeps_unfinished : Keeps view (unfinished : Action σ ε α) := by
  intro s w r w' h
  cases h

theorem keeps_get : Keeps view (get : Action σ ε (World σ)) := by
  intro s w r w' h
  cases h
  rfl

theorem keeps_read : Keeps view (read : Action σ ε Surroundings) := by
  intro s w r w' h
  cases h
  rfl

theorem keeps_modify {change : World σ → World σ} (h : ∀ w, view (change w) = view w) :
    Keeps view (modify change : Action σ ε Unit) := by
  intro s w r w' hmodify
  cases hmodify
  exact h w

theorem Keeps.bind {x : Action σ ε α} {f : α → Action σ ε β} (hx : Keeps view x)
    (hf : ∀ a, Keeps view (f a)) : Keeps view (x >>= f) := by
  intro s w r w' h
  rcases bind_cases h with ⟨a, w₁, hfirst, hsecond⟩ | ⟨e, hfirst, -⟩
  · exact (hf a hsecond).trans (hx hfirst)
  · exact hx hfirst

/-- What is done on a condition only, and then what is done in any case. -/
theorem Keeps.sometimes {condition : Prop} [Decidable condition] {x : Action σ ε Unit}
    {f : Unit → Action σ ε β} (hx : Keeps view x) (hf : ∀ u, Keeps view (f u)) :
    Keeps view (if condition then x >>= f else f ()) := by
  split
  · exact hx.bind hf
  · exact hf ()

theorem Keeps.attempt {x : Action σ ε α} (hx : Keeps view x) :
    Keeps view (Action.attempt x : Action σ ε' (Except ε α)) := by
  intro s w r w' h
  rw [outcome_attempt, Option.map_eq_some_iff] at h
  obtain ⟨⟨result, w₁⟩, hresult, heq⟩ := h
  cases heq
  exact hx hresult

theorem Keeps.mapFailure {g : ε → ε'} {x : Action σ ε α} (hx : Keeps view x) :
    Keeps view (Action.mapFailure g x) := by
  intro s w r w' h
  obtain ⟨result, hresult, -⟩ := mapFailure_cases h
  exact hx hresult

/-- An activity with files alone, for a view that shows neither the files nor the journal. -/
theorem keeps_ofFiles {x : FileAction σ α}
    (h : ∀ w workspace, view { w with toWorkspace := workspace } = view w) :
    Keeps view (ofFiles x) := by
  intro s w r w' hfiles
  rw [outcome_ofFiles, Option.map_eq_some_iff] at hfiles
  obtain ⟨⟨result, workspace⟩, -, heq⟩ := hfiles
  cases heq
  exact h w workspace

/-! ### Notes, calls and pauses -/

/-- An activity that only asks. -/
theorem keeps_of_asks (hview : Timeless view) {x : Action σ ε α}
    (h : ∀ s w r w', x.outcome s w = some (r, w') → ∃ made, Asks w made w') : Keeps view x := by
  intro s w r w' houtcome
  obtain ⟨made, hasks⟩ := h s w r w' houtcome
  exact hview.asks hasks

theorem keeps_note (hview : Timeless view) (severity : Journal.Severity)
    (origin : Journal.Origin) (message : String) (fields : List (String × String)) :
    Keeps view (note severity origin message fields : Action σ ε Unit) :=
  keeps_modify fun w => hview.noted w _

theorem keeps_perform (hview : Timeless view) {call : Call}
    {effect : History → Action σ RemoteFault α} (h : ∀ history, Keeps view (effect history)) :
    Keeps view (perform call effect) := by
  intro s w r w' hperform
  rcases perform_cases hperform with heffect | ⟨v, fault, -, -, rfl⟩
  · exact (h _ heffect).trans (hview.withCall w _)
  · exact hview.withCall w _

theorem keeps_query (hview : Timeless view) (call : Call) (answer : World σ → α) :
    Keeps view (query call answer) :=
  keeps_perform hview fun _ => keeps_get.bind fun w => keeps_pure (answer w)

theorem keeps_command (hview : Timeless view) {call : Call} {change : World σ → World σ}
    (h : ∀ w, view (change w) = view w) : Keeps view (command call change) :=
  keeps_perform hview fun _ => keeps_modify h

theorem keeps_pause (hview : Timeless view) (interval : Millis) (activity : String) :
    Keeps view (pause interval activity) := by
  intro s w r w' h
  rcases pause_cases h with ⟨-, rfl, -⟩ | ⟨moment, w₁, -, -, ⟨-, rfl⟩ | ⟨-, rfl⟩, entry, rfl⟩
  · exact hview.advance _ _ w
  · exact hview.noted w₁ entry
  · exact (hview.noted _ entry).trans (hview.advance _ moment w)

end Action

end CaseRunner.Remote
