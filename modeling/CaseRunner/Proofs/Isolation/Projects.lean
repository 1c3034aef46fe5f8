import CaseRunner.Isolation.Lookup
import CaseRunner.Proofs.Remote.Keeping
import CaseRunner.Proofs.Remote.Listing

/-!
# `CaseRunner.Proofs.Isolation.Projects`: opening a project and closing it

Opening a project adds it to the open ones, or fails and leaves notes alone
(`openProject_cases`). To close the project of a file, the open ones are asked for their files
one after the other, and the first one that comes from the file is closed. `ClosesFirst` says how
that ends, whatever becomes of the calls.
-/

set_option autoImplicit false

namespace CaseRunner.Remote

variable {σ γ : Type} {s : Surroundings} {w w₁ w' : World σ} {path : FilePath}

/-- Nothing but the journal and the calls has changed. -/
def OnlyNotes (w w' : World σ) : Prop := w' = { w with journal := w'.journal, calls := w'.calls }

namespace OnlyNotes

theorem refl (w : World σ) : OnlyNotes w w := rfl

theorem of_asks {made : History} (h : Asks w made w') : OnlyNotes w w' := by
  rw [OnlyNotes, h.same]

theorem withCall (w : World σ) (record : CallRecord) : OnlyNotes w (w.withCall record) := rfl

theorem trans (h₁ : OnlyNotes w w₁) (h₂ : OnlyNotes w₁ w') : OnlyNotes w w' := by
  rw [OnlyNotes, h₂, h₁]

theorem noted (h : OnlyNotes w w') (entry : Journal.Entry) :
    OnlyNotes w { w' with toWorkspace := w'.note entry } := by
  rw [OnlyNotes, h]
  rfl

/-- A note may be all that is done for an answer. -/
theorem of_answer {ε α : Type} {severity : Journal.Severity} {origin : Journal.Origin}
    {message : String} {fields : List (String × String)} {a : α} {r : Except ε α}
    (h : (Action.note severity origin message fields >>= fun _ => pure a : Action σ ε α).outcome s
      w = some (r, w')) : r = .ok a ∧ OnlyNotes w w' := by
  have h := Action.note_bind_cases h
  simp only [Action.outcome_pure, Option.some.injEq, Prod.mk.injEq] at h
  obtain ⟨rfl, rfl⟩ := h
  exact ⟨rfl, (refl w).noted _⟩

/-- Notes do not show in a view without them. -/
theorem view_eq {view : World σ → γ} (hview : Timeless view) (h : OnlyNotes w w') :
    view w' = view w := by
  rw [h]
  exact hview w _ _ w.now w.process w.lines

theorem project (h : OnlyNotes w w') (number : Nat) : w'.project number = w.project number := by
  rw [h]
  rfl

end OnlyNotes

/-! ### Closing a project -/

namespace World

/-- Whether a project was loaded from a file. -/
def isFrom (w : World σ) (path : FilePath) (number : Nat) : Bool :=
  (w.project number).file.any (·.same path)

/-- The first open project that was loaded from a file. -/
def firstFrom? (w : World σ) (path : FilePath) : Option Nat := w.opened.find? (w.isFrom path)

/-- The world after a project has been closed. -/
def closing (w : World σ) (number : Nat) : World σ :=
  w.updateProject number fun p => { p with closed := true }

theorem file_closing (w : World σ) (closed number : Nat) :
    ((w.closing closed).project number).file = (w.project number).file := by
  rw [closing, project_updateProject]
  split <;> rfl

theorem configuration_closing (w : World σ) (closed : Nat) (c : ConfigRef) :
    (w.closing closed).configuration c = w.configuration c := by
  rw [configuration, closing, project_updateProject]
  split <;> rfl

/-- Closing a project closes no other one. -/
theorem closed_closing_of_ne (w : World σ) {closed number : Nat} (h : closed ≠ number) :
    ((w.closing closed).project number).closed = (w.project number).closed := by
  rw [closing, project_updateProject, if_neg fun hand => h hand.1]

/-- A project that has a file can be closed, for the tool has loaded it. -/
theorem closed_closing (w : World σ) {number : Nat} (h : w.isFrom path number = true) :
    ((w.closing number).project number).closed = true := by
  have hloaded : number < w.projects.length := by
    refine Nat.lt_of_not_le fun hnot => ?_
    have hnone : w.projects[number]? = none := List.getElem?_eq_none hnot
    simp only [isFrom, project, List.getD, hnone] at h
    cases h
  rw [closing, project_updateProject, if_pos ⟨rfl, hloaded⟩]

end World

/-- How closing a project ends, with the calls `made` for it, if `first` is the one to close:
nothing is closed, though no call has failed only if there is no such project, or else it is
closed. -/
inductive ClosesFirst (w : World σ) (first : Option Nat) (made : History) (w' : World σ) : Prop
  /-- No project is closed. -/
  | unclosed (calls : w'.calls = made ++ w.calls) (same : OnlyNotes w w')
      (nothing : made.Granted → first = none)
  /-- The project is closed. -/
  | closed {number : Nat} (calls : w'.calls = made ++ w.calls) (found : first = some number)
      (same : OnlyNotes (w.closing number) w')

namespace ClosesFirst

variable {first : Option Nat} {made : History}

theorem calls_eq (h : ClosesFirst w first made w') : w'.calls = made ++ w.calls := by
  cases h with
  | unclosed hcalls => exact hcalls
  | closed hcalls => exact hcalls

/-- Questions may come before. -/
theorem after {asked : History} (hasks : Asks w asked w₁) (h : ClosesFirst w₁ first made w') :
    ClosesFirst w first (made ++ asked) w' := by
  have hcalls : w'.calls = (made ++ asked) ++ w.calls := by
    rw [h.calls_eq, hasks.course.calls, List.append_assoc]
  cases h with
  | unclosed _ hsame hnothing =>
      refine .unclosed hcalls ((OnlyNotes.of_asks hasks).trans hsame) fun hgranted => ?_
      exact hnothing (History.granted_append.mp hgranted).1
  | closed _ hfound hsame =>
      refine .closed hcalls hfound (OnlyNotes.trans ?_ hsame)
      rw [OnlyNotes, hasks.same]
      rfl

/-- Something may be noted at the end. -/
theorem noted (h : ClosesFirst w first made w') (entry : Journal.Entry) :
    ClosesFirst w first made { w' with toWorkspace := w'.note entry } := by
  cases h with
  | unclosed hcalls hsame hnothing => exact .unclosed hcalls (hsame.noted entry) hnothing
  | closed hcalls hfound hsame => exact .closed hcalls hfound (hsame.noted entry)

/-- A view that does not show which projects are closed is the same afterwards. -/
theorem view_eq {γ : Type} {view : World σ → γ} (hview : Timeless view)
    (hclosing : ∀ (w : World σ) number, view (w.closing number) = view w)
    (h : ClosesFirst w first made w') : view w' = view w := by
  cases h with
  | unclosed _ hsame _ => exact hsame.view_eq hview
  | closed _ _ hsame => exact (hsame.view_eq hview).trans (hclosing w _)

theorem file_eq (h : ClosesFirst w first made w') (number : Nat) :
    (w'.project number).file = (w.project number).file := by
  cases h with
  | unclosed _ hsame _ => rw [hsame.project]
  | closed _ _ hsame => rw [hsame.project, w.file_closing]

/-- The same project is the first one afterwards. -/
theorem firstFrom?_eq (h : ClosesFirst w first made w') :
    w'.firstFrom? path = w.firstFrom? path := by
  have hopened : w'.opened = w.opened := h.view_eq (fun _ _ _ _ _ _ => rfl) fun _ _ => rfl
  have hfrom : w'.isFrom path = w.isFrom path := by
    funext number
    rw [World.isFrom, h.file_eq, World.isFrom]
  rw [World.firstFrom?, hopened, hfrom, World.firstFrom?]

/-- No other project is closed. -/
theorem closed_of_ne (h : ClosesFirst w first made w') {number : Nat} (hne : first ≠ some number) :
    (w'.project number).closed = (w.project number).closed := by
  cases h with
  | unclosed _ hsame _ => rw [hsame.project]
  | closed _ hfound hsame =>
      rw [hsame.project, w.closed_closing_of_ne]
      rintro rfl
      exact hne hfound

/-- If no call fails, the first project is closed. -/
theorem closed_of_granted (h : ClosesFirst w (w.firstFrom? path) made w') (hgranted : made.Granted)
    {number : Nat} (hfirst : w.firstFrom? path = some number) :
    (w'.project number).closed = true := by
  cases h with
  | unclosed _ _ hnothing => cases (hnothing hgranted).symm.trans hfirst
  | closed _ hfound hsame =>
      cases hfound.symm.trans hfirst
      rw [hsame.project]
      exact w.closed_closing (List.find?_some hfirst)

end ClosesFirst

end CaseRunner.Remote

namespace CaseRunner.Isolation

open CaseRunner.Remote
open CaseRunner.Remote.Action

variable {σ : Type} {s : Surroundings} {w w' : World σ} {path : FilePath}

/-! ### The activities -/

/-- A file that the tool opens is a project that is open. Else there is no project, and nothing
but notes. -/
theorem openFile_cases {r : Except RemoteFault OpenResult}
    (h : (openFile path).outcome s w = some (r, w')) :
    (((∃ fault, r = .error fault) ∨ ∃ logs, r = .ok ⟨none, logs⟩) ∧ OnlyNotes w w') ∨
      ∃ project logs, r = .ok ⟨some project, logs⟩ ∧
        OnlyNotes { w with opened := w.opened ++ [project.number] } w' := by
  rcases perform_cases h with h | ⟨v, fault, -, rfl, rfl⟩
  · simp only [outcome_bind, outcome_read, Option.bind_some] at h
    cases hfind : s.openable.find? (·.1.same path) with
    | none =>
        simp only [hfind, outcome_bind, outcome_read, outcome_pure, Option.bind_some,
          Option.some.injEq, Prod.mk.injEq] at h
        obtain ⟨rfl, rfl⟩ := h
        exact .inl ⟨.inr ⟨_, rfl⟩, rfl⟩
    | some found =>
        simp only [hfind, outcome_bind, outcome_modify, outcome_get, outcome_pure,
          Option.bind_some, Option.some.injEq, Prod.mk.injEq] at h
        obtain ⟨rfl, rfl⟩ := h
        exact .inr ⟨_, _, rfl, rfl⟩
  · exact .inl ⟨.inl ⟨fault, rfl⟩, .withCall w _⟩

/-- Opening a project either fails and leaves notes alone, or that project is open. -/
theorem openProject_cases {r : Except Failure ProjectRef}
    (h : (openProject path).outcome s w = some (r, w')) :
    ((∃ failure, r = .error failure) ∧ OnlyNotes w w') ∨
      ∃ project, r = .ok project ∧
        OnlyNotes { w with opened := w.opened ++ [project.number] } w' := by
  have h := note_bind_cases h
  rcases bind_cases h with ⟨result, w₁, hopen, h⟩ | ⟨failure, hopen, rfl⟩
  · obtain ⟨answer, hopen, hanswer⟩ := mapFailure_cases hopen
    rcases openFile_cases hopen with
      ⟨⟨fault, rfl⟩ | ⟨logs, rfl⟩, hsame⟩ | ⟨project, logs, rfl, hsame⟩
    · cases hanswer
    · cases hanswer
      simp only [outcome_bind, outcome_note, outcome_throw, Option.bind_some, Option.some.injEq,
        Prod.mk.injEq] at h
      obtain ⟨rfl, rfl⟩ := h
      exact .inl ⟨⟨_, rfl⟩, ((OnlyNotes.refl w).noted _).trans (hsame.noted _)⟩
    · cases hanswer
      simp only [outcome_pure, Option.some.injEq, Prod.mk.injEq] at h
      obtain ⟨rfl, rfl⟩ := h
      exact .inr ⟨project, rfl, ((OnlyNotes.refl _).noted _).trans hsame⟩
  · obtain ⟨answer, hopen, hanswer⟩ := mapFailure_cases hopen
    rcases openFile_cases hopen with ⟨-, hsame⟩ | ⟨project, logs, rfl, -⟩
    · exact .inl ⟨⟨failure, rfl⟩, ((OnlyNotes.refl w).noted _).trans hsame⟩
    · cases hanswer

theorem close_cases {project : ProjectRef} {r : Except RemoteFault Unit}
    (h : (Remote.closeProject project).outcome s w = some (r, w')) :
    ∃ made, ClosesFirst w (some project.number) made w' := by
  rcases command_cases h with ⟨-, rfl⟩ | ⟨v, fault, hv, -, rfl⟩
  · exact ⟨[⟨.close project, .granted⟩], .closed rfl rfl rfl⟩
  · exact ⟨[⟨.close project, v⟩], .unclosed rfl (.withCall w _) fun hgranted =>
      absurd (hgranted _ List.mem_cons_self) hv⟩

/-- The first of the given projects that was loaded from the file is closed. -/
theorem closeFirst_cases {refs : List ProjectRef} {r : Except RemoteFault Unit}
    (h : (closeFirst path refs).outcome s w = some (r, w')) :
    ∃ made, ClosesFirst w ((refs.map (·.number)).find? (w.isFrom path)) made w' := by
  induction refs generalizing w with
  | nil =>
      simp only [closeFirst, outcome_note, Option.some.injEq, Prod.mk.injEq] at h
      obtain ⟨rfl, rfl⟩ := h
      exact ⟨[], .unclosed rfl ((OnlyNotes.refl w).noted _) fun _ => rfl⟩
  | cons project rest ih =>
      rcases bind_cases h with ⟨file, w₁, hfile, h⟩ | ⟨fault, hfile, rfl⟩
      · rcases query_cases hfile with ⟨hr, rfl⟩ | ⟨_, _, -, hr, -⟩
        rotate_left
        · cases hr
        obtain rfl := Except.ok.inj hr
        have hasked : Asks w [⟨.file project, .granted⟩] (w.withCall ⟨.file project, .granted⟩) :=
          .of_call w .granted rfl
        have hfile : (((w.withCall ⟨.file project, .granted⟩).project project.number).file.any
            (·.same path)) = w.isFrom path project.number := rfl
        rw [List.map_cons]
        cases hfrom : w.isFrom path project.number with
        | false =>
            rw [List.find?_cons_of_neg (by rw [hfrom]; decide)]
            rw [hfile, hfrom, if_neg Bool.false_ne_true] at h
            obtain ⟨made, hmade⟩ := ih h
            exact ⟨_, hmade.after hasked⟩
        | true =>
            rw [List.find?_cons_of_pos hfrom]
            rw [hfile, hfrom, if_pos rfl] at h
            obtain ⟨made, hmade⟩ := close_cases (note_bind_cases h)
            exact ⟨_, (hmade.after (.of_note _ _)).after hasked⟩
      · rcases query_cases hfile with ⟨hr, -⟩ | ⟨v, _, hv, -, rfl⟩
        · cases hr
        · exact ⟨[⟨.file project, v⟩], .unclosed rfl (.withCall w _) fun hgranted =>
            absurd (hgranted _ List.mem_cons_self) hv⟩

theorem closeProject_cases {r : Except RemoteFault Unit}
    (h : (closeProject path).outcome s w = some (r, w')) :
    ∃ made, ClosesFirst w (w.firstFrom? path) made w' := by
  rcases bind_cases h with ⟨refs, w₁, hlist, h⟩ | ⟨fault, hlist, rfl⟩
  · rcases query_cases hlist with ⟨hr, rfl⟩ | ⟨_, _, -, hr, -⟩
    · cases hr
      obtain ⟨made, hmade⟩ := closeFirst_cases h
      have hnumbers : (w.opened.map w.projectRef).map (·.number) = w.opened := by
        rw [List.map_map]
        exact List.map_id w.opened
      have hasked : Asks w [⟨.openProjects, .granted⟩] (w.withCall ⟨.openProjects, .granted⟩) :=
        .of_call w .granted rfl
      exact ⟨_, ClosesFirst.after hasked (hnumbers ▸ hmade)⟩
    · cases hr
  · rcases query_cases hlist with ⟨hr, -⟩ | ⟨v, _, hv, -, rfl⟩
    · cases hr
    · exact ⟨[⟨.openProjects, v⟩], .unclosed rfl (.withCall w _) fun hgranted =>
        absurd (hgranted _ List.mem_cons_self) hv⟩

theorem openProject_ends (path : FilePath) :
    Ends s (openProject path : Action σ Failure ProjectRef) := by
  have hopen : Ends s (openFile path : Action σ RemoteFault OpenResult) := by
    refine ends_perform fun _ => ends_read_bind ?_
    cases s.openable.find? (·.1.same path) with
    | none => exact ends_read_bind (ends_pure _)
    | some found => exact (ends_modify _).bind fun _ => ends_get.bind fun _ => ends_pure _
  refine (ends_note _ _ _ _).bind fun _ => hopen.mapFailure.bind fun opened => ?_
  cases opened.project with
  | none => exact (ends_note _ _ _ _).bind fun _ => ends_throw _
  | some project => exact ends_pure project

theorem closeProject_ends (path : FilePath) :
    Ends s (closeProject path : Action σ RemoteFault Unit) := by
  have hfirst (refs : List ProjectRef) :
      Ends s (closeFirst path refs : Action σ RemoteFault Unit) := by
    induction refs with
    | nil => exact ends_note _ _ _ _
    | cons project rest ih =>
        refine (ends_query _ _).bind fun file => ?_
        split
        · exact (ends_note _ _ _ _).bind fun _ => ends_command _ _
        · exact ih
  exact (ends_query _ _).bind hfirst

end CaseRunner.Isolation
