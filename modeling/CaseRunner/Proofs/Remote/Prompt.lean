import CaseRunner.Proofs.Remote.Course
import CaseRunner.Proofs.Remote.Ending

/-!
# `CaseRunner.Proofs.Remote.Prompt`: activities that take no time

Time passes in pauses only. An activity without a pause is `Prompt`: it comes to its end at the
moment it begins. Each call that it makes has met with what the surroundings say of it, so where
they grant everything all of its calls were granted (`Prompt.granted`). The activities here have
nothing to do with a run that has been started, so none of the calls is `about` one.

There is one lemma for each way to put activities together, as for `Ends`.
-/

set_option autoImplicit false

namespace CaseRunner.Remote

variable {σ ε ε' α β : Type} {s : Surroundings} {w w' : World σ}

/-- The run that has been started which a call is about. -/
def Call.run? : Call → Option Nat
  | .isRunning number | .isPending number | .cancel number => some number
  | _ => none

namespace History

/-- The calls about a run. -/
def about (run : Nat) (history : History) : History :=
  history.filter fun record => record.call.run? = some run

@[simp] theorem about_nil (run : Nat) : about run [] = [] := rfl

@[simp] theorem about_append (run : Nat) (later earlier : History) :
    about run (later ++ earlier) = about run later ++ about run earlier :=
  List.filter_append later earlier

theorem about_cons (run : Nat) (record : CallRecord) (earlier : History) :
    about run (record :: earlier) =
      if record.call.run? = some run then record :: about run earlier else about run earlier := by
  simp [about, List.filter_cons]

/-- The calls are about no run, and each of them has met with what the surroundings say. -/
structure Plain (s : Surroundings) (made : History) : Prop where
  met : ∀ record ∈ made, ∃ earlier, record.verdict = s.verdict earlier record.call
  noRun : ∀ record ∈ made, record.call.run? = none

namespace Plain

variable {made later earlier : History}

theorem nil : Plain s [] := ⟨nofun, nofun⟩

theorem append (hlater : later.Plain s) (hearlier : earlier.Plain s) :
    Plain s (later ++ earlier) where
  met record hmem := (List.mem_append.mp hmem).elim (hlater.met record) (hearlier.met record)
  noRun record hmem := (List.mem_append.mp hmem).elim (hlater.noRun record) (hearlier.noRun record)

/-- None of the calls is about a given run. -/
theorem about (h : made.Plain s) (run : Nat) : made.about run = [] := by
  refine List.filter_eq_nil_iff.mpr fun record hmem => ?_
  simp [h.noRun record hmem]

/-- Where the surroundings grant everything, all of the calls were granted. -/
theorem granted (h : made.Plain s) (hgrants : ∀ history call, s.verdict history call = .granted) :
    made.Granted := by
  intro record hmem
  obtain ⟨earlier, hverdict⟩ := h.met record hmem
  rw [hverdict, hgrants]

end Plain

end History

namespace Action

variable {x : Action σ ε α} {f : α → Action σ ε β}

/-- The activity comes to its end at once, in whatever world it begins, and is about no run. -/
def Prompt (s : Surroundings) (x : Action σ ε α) : Prop :=
  ∀ w, ∃ r w' made, x.outcome s w = some (r, w') ∧ w'.now = w.now ∧
    w'.calls = made ++ w.calls ∧ made.Plain s

namespace Prompt

theorem ends (hx : Prompt s x) : Ends s x := by
  intro w
  obtain ⟨r, w', made, h, -⟩ := hx w
  rw [h]
  rfl

/-- The time and the calls after the activity, for an outcome that is known. -/
theorem of_outcome (hx : Prompt s x) {r : Except ε α} (h : x.outcome s w = some (r, w')) :
    w'.now = w.now ∧ ∃ made, w'.calls = made ++ w.calls ∧ made.Plain s := by
  obtain ⟨_, _, made, h', hnow, hcalls, hmade⟩ := hx w
  rw [h] at h'
  cases h'
  exact ⟨hnow, made, hcalls, hmade⟩

/-- The calls of the activity by a course that it takes. -/
theorem of_course (hx : Prompt s x) {r : Except ε α} {made : History}
    (h : x.outcome s w = some (r, w')) (hcourse : Course w made w') : made.Plain s := by
  obtain ⟨-, made', hcalls, hmade⟩ := hx.of_outcome h
  rw [hcourse.calls] at hcalls
  rw [List.append_cancel_right hcalls]
  exact hmade

/-- An activity that makes no call and takes no time. -/
theorem of_still (h : ∀ w, ∃ r w', x.outcome s w = some (r, w') ∧ w'.now = w.now ∧
    w'.calls = w.calls) : Prompt s x := by
  intro w
  obtain ⟨r, w', houtcome, hnow, hcalls⟩ := h w
  exact ⟨r, w', [], houtcome, hnow, hcalls, .nil⟩

theorem bind (hx : Prompt s x) (hf : ∀ a, Prompt s (f a)) : Prompt s (x >>= f) := by
  intro w
  obtain ⟨r, w₁, made₁, h₁, hnow₁, hcalls₁, hmade₁⟩ := hx w
  rw [outcome_bind, h₁, Option.bind_some]
  cases r with
  | error e => exact ⟨_, w₁, made₁, rfl, hnow₁, hcalls₁, hmade₁⟩
  | ok a =>
      obtain ⟨r, w₂, made₂, h₂, hnow₂, hcalls₂, hmade₂⟩ := hf a w₁
      refine ⟨r, w₂, made₂ ++ made₁, h₂, hnow₂.trans hnow₁, ?_, hmade₂.append hmade₁⟩
      rw [hcalls₂, hcalls₁, List.append_assoc]

theorem attempt (hx : Prompt s x) : Prompt s (attempt x : Action σ ε' (Except ε α)) := by
  intro w
  obtain ⟨r, w', made, h, hrest⟩ := hx w
  exact ⟨.ok r, w', made, by rw [outcome_attempt, h, Option.map_some], hrest⟩

theorem mapFailure {g : ε → ε'} (hx : Prompt s x) : Prompt s (mapFailure g x) := by
  intro w
  obtain ⟨r, w', made, h, hrest⟩ := hx w
  exact ⟨r.mapError g, w', made, by rw [outcome_mapFailure, h, Option.map_some], hrest⟩

end Prompt

theorem prompt_pure (a : α) : Prompt s (pure a : Action σ ε α) :=
  .of_still fun w => ⟨_, w, rfl, rfl, rfl⟩

theorem prompt_throw (e : ε) : Prompt s (throw e : Action σ ε α) :=
  .of_still fun w => ⟨_, w, rfl, rfl, rfl⟩

theorem prompt_get : Prompt s (get : Action σ ε (World σ)) :=
  .of_still fun w => ⟨_, w, rfl, rfl, rfl⟩

theorem prompt_modify {change : World σ → World σ}
    (h : ∀ w, (change w).now = w.now ∧ (change w).calls = w.calls) :
    Prompt s (modify change : Action σ ε Unit) := .of_still fun w => ⟨_, change w, rfl, h w⟩

theorem prompt_note (severity : Journal.Severity) (origin : Journal.Origin) (message : String)
    (fields : List (String × String)) :
    Prompt s (note severity origin message fields : Action σ ε Unit) :=
  prompt_modify fun _ => ⟨rfl, rfl⟩

/-- What is read are the surroundings, so only these have to be looked at. -/
theorem prompt_read_bind {f : Surroundings → Action σ ε β} (hf : Prompt s (f s)) :
    Prompt s (read >>= f) := by
  intro w
  rw [outcome_bind, outcome_read, Option.bind_some]
  exact hf w

theorem prompt_ofFiles {x : FileAction σ α} (hx : x.Ends) : Prompt s (ofFiles x) := by
  refine .of_still fun w => ?_
  obtain ⟨⟨result, workspace⟩, h⟩ := Option.isSome_iff_exists.mp (hx w.toWorkspace)
  exact ⟨result, { w with toWorkspace := workspace },
    by rw [outcome_ofFiles, h, Option.map_some], rfl, rfl⟩

/-- A call, if what the tool does takes no time. -/
theorem prompt_perform {call : Call} {effect : History → Action σ RemoteFault α}
    (hcall : call.run? = none) (h : ∀ history, Prompt s (effect history)) :
    Prompt s (perform call effect) := by
  intro w
  have hone {v : Verdict} (hv : v = s.verdict w.calls call) : History.Plain s [⟨call, v⟩] :=
    ⟨fun _ hmem => List.mem_singleton.mp hmem ▸ ⟨w.calls, hv⟩,
      fun _ hmem => List.mem_singleton.mp hmem ▸ hcall⟩
  rw [outcome_perform]
  cases hfault : (s.verdict w.calls call).fault? with
  | none =>
      obtain ⟨r, w', made, heffect, hnow, hcalls, hmade⟩ :=
        h w.calls (w.withCall ⟨call, .granted⟩)
      refine ⟨r, w', made ++ [⟨call, .granted⟩], heffect, hnow, ?_,
        hmade.append (hone (Verdict.fault?_eq_none.mp hfault).symm)⟩
      rw [hcalls, List.append_assoc]
      rfl
  | some fault => exact ⟨_, _, _, rfl, rfl, rfl, hone rfl⟩

theorem prompt_query {call : Call} (hcall : call.run? = none) (answer : World σ → α) :
    Prompt s (query call answer) :=
  prompt_perform hcall fun _ => prompt_get.bind fun w => prompt_pure (answer w)

theorem prompt_command {call : Call} {change : World σ → World σ} (hcall : call.run? = none)
    (h : ∀ w, (change w).now = w.now ∧ (change w).calls = w.calls) :
    Prompt s (command call change) :=
  prompt_perform hcall fun _ => prompt_modify h

/-- An activity for each element of a list. -/
theorem prompt_mapM {γ : Type} {g : γ → Action σ ε α} (hg : ∀ c, Prompt s (g c))
    (list : List γ) : Prompt s (list.mapM g) := by
  induction list with
  | nil => exact prompt_pure []
  | cons c rest ih =>
      rw [List.mapM_cons]
      exact (hg c).bind fun a => ih.bind fun as => prompt_pure (a :: as)

/-! ### What the tool is asked to do -/

theorem prompt_setDataDir (c : ConfigRef) (path : String) :
    Prompt s (setDataDir c path : Action σ RemoteFault Unit) :=
  prompt_command rfl fun _ => ⟨rfl, rfl⟩

theorem prompt_setReportDir (c : ConfigRef) (path : String) :
    Prompt s (setReportDir c path : Action σ RemoteFault Unit) :=
  prompt_command rfl fun _ => ⟨rfl, rfl⟩

theorem prompt_setTestSet (item : ItemRef) (set : Option TestSetRef) :
    Prompt s (setTestSet item set : Action σ RemoteFault Unit) :=
  prompt_command rfl fun _ => ⟨rfl, rfl⟩

theorem prompt_addTestCase (set : TestSetRef) (testCase : TestCase) :
    Prompt s (addTestCase set testCase : Action σ RemoteFault Unit) :=
  prompt_command rfl fun _ => ⟨rfl, rfl⟩

theorem prompt_createTestSet (p : ProjectRef) (name : String) :
    Prompt s (createTestSet p name : Action σ RemoteFault TestSetRef) := by
  refine prompt_perform rfl fun _ => prompt_get.bind fun w => ?_
  refine (prompt_modify fun _ => ?_).bind fun _ => prompt_pure _
  exact ⟨rfl, rfl⟩

theorem prompt_deleteTestSet (p : ProjectRef) (set : TestSetRef) :
    Prompt s (deleteTestSet p set : Action σ RemoteFault Unit) :=
  prompt_command rfl fun _ => ⟨rfl, rfl⟩

theorem prompt_run [Files.FileStore σ] (c : ConfigRef) :
    Prompt s (run c : Action σ RemoteFault Nat) := by
  refine prompt_perform rfl fun _ => prompt_get.bind fun w => prompt_read_bind ?_
  refine prompt_get.bind fun _ => (prompt_modify fun _ => ?_).bind fun _ => prompt_pure _
  -- What the run writes changes the files alone.
  rw [foldl_produce]
  exact ⟨rfl, rfl⟩

end Action

end CaseRunner.Remote
