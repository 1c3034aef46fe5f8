import CaseRunner.Proofs.Connection.Keeping
import CaseRunner.Proofs.Isolation.Directories
import CaseRunner.Proofs.Isolation.Ending
import CaseRunner.Proofs.Isolation.Keeping
import CaseRunner.Proofs.Isolation.Projects
import CaseRunner.Session

/-!
# `CaseRunner.Proofs.Session`: a session from its beginning to its end

A session is put together from steps that can fail, the case run and, if the settings say so,
closing the project. `Opens` says that all steps before the case run go well. From there on a
session is the case run and what follows it (`run_of_opens`). If it does not get there, it
answers `false` and has changed nothing (`run_of_not_opens`).

`run_composes` says when a session answers `true` and what holds when it is over (`Accounts`),
however the registry, the tool, the files, the launcher and the user behave. It says too that a
session comes to its end, if the loops in it do and the copy of the artifacts does.
-/

set_option autoImplicit false

namespace CaseRunner.Session

open CaseRunner.Config (Settings)
open CaseRunner.Connection (EnoughPatience findTool lookupAnswer)
open CaseRunner.Files (FileStore CopyBack)
open CaseRunner.Remote
open CaseRunner.Remote.Action

variable {σ : Type} {s : Surroundings} {w w' : World σ} {settings : Settings} {path : FilePath}
  {project : ProjectRef} {opened : World σ}

/-! ### The steps before the case run -/

theorem openProject_cases {r : Except Failure (Option ProjectRef)}
    (h : (openProject path).outcome s w = some (r, w')) :
    (∃ project, (Isolation.openProject path).outcome s w = some (.ok project, w') ∧
        r = .ok (some project)) ∨
      ∃ failure w₁, (Isolation.openProject path).outcome s w = some (.error failure, w₁) ∧
        r = .ok none ∧ OnlyNotes w₁ w' := by
  obtain ⟨result, w₁, hopen, h⟩ := attempt_bind_cases h
  cases result with
  | ok project =>
      simp only [outcome_pure, Option.some.injEq, Prod.mk.injEq] at h
      obtain ⟨rfl, rfl⟩ := h
      exact .inl ⟨project, hopen, rfl⟩
  | error failure =>
      obtain ⟨rfl, hnotes⟩ := OnlyNotes.of_answer h
      exact .inr ⟨failure, w₁, hopen, rfl, hnotes⟩

section
variable [FileStore σ]

/-- All steps before the case run go well: the tool is at hand, the path of the project can be
told from the root on, and the project there opens. The case run begins in the world `opened`. -/
def Opens (s : Surroundings) (settings : Settings) (w : World σ) (path : FilePath)
    (project : ProjectRef) (opened : World σ) : Prop :=
  ∃ tool w₁, (Connection.acquire settings.acquireOptions).outcome s w = some (.ok tool, w₁) ∧
    FileStore.absolute w₁.files settings.execution.project = .ok path ∧
    (Isolation.openProject path).outcome s w₁ = some (.ok project, opened)

/-- A tool that is at hand is the tool, and otherwise that is noted. -/
theorem connect_cases {r : Except Failure Bool}
    (h : (connect settings).outcome s w = some (r, w')) :
    (∃ tool, (Connection.acquire settings.acquireOptions).outcome s w = some (.ok tool, w') ∧
        r = .ok true) ∨
      ∃ failure w₁,
        (Connection.acquire settings.acquireOptions).outcome s w = some (.error failure, w₁) ∧
        r = .ok false ∧ OnlyNotes w₁ w' := by
  obtain ⟨result, w₁, hacquire, h⟩ := attempt_bind_cases h
  cases result with
  | ok tool =>
      simp only [outcome_pure, Option.some.injEq, Prod.mk.injEq] at h
      obtain ⟨rfl, rfl⟩ := h
      exact .inl ⟨tool, hacquire, rfl⟩
  | error failure =>
      obtain ⟨rfl, hnotes⟩ := OnlyNotes.of_answer h
      exact .inr ⟨failure, w₁, hacquire, rfl, hnotes⟩

theorem projectPath_cases {r : Except Failure (Option FilePath)}
    (h : (projectPath settings).outcome s w = some (r, w')) :
    (∃ path, FileStore.absolute w.files settings.execution.project = .ok path ∧
        r = .ok (some path) ∧ w' = w) ∨
      (∃ fault, FileStore.absolute w.files settings.execution.project = .error fault) ∧
        r = .ok none ∧ OnlyNotes w w' := by
  obtain ⟨result, w₁, hask, h⟩ := attempt_bind_cases h
  rw [outcome_ofFiles, FileAction.run_tryAsk, Option.map_some, Option.some.injEq] at hask
  cases habsolute : FileStore.absolute w.files settings.execution.project with
  | ok path =>
      rw [habsolute] at hask
      cases hask
      simp only [mapError_ok, outcome_pure, Option.some.injEq, Prod.mk.injEq] at h
      obtain ⟨rfl, rfl⟩ := h
      exact .inl ⟨path, rfl, rfl, rfl⟩
  | error fault =>
      rw [habsolute] at hask
      cases hask
      obtain ⟨rfl, hnotes⟩ := OnlyNotes.of_answer h
      exact .inr ⟨⟨fault, rfl⟩, rfl, hnotes⟩

/-- What is done with a project that is open: the case run, and what follows it. -/
def useProject (copyBack : CopyBack σ) (settings : Settings) (path : FilePath)
    (project : ProjectRef) : Action σ Failure Bool := do
  let ok ← Isolation.runCase copyBack project settings.caseRequest
  if settings.execution.closeProject then closeProject path
  note .info .top "single test case execution done"
    [("success", toString ok), ("test_case", settings.execution.testCase)]
  return ok

/-- A session that opens the project goes on with it. -/
theorem run_of_opens {copyBack : CopyBack σ} (h : Opens s settings w path project opened) :
    (run copyBack settings).outcome s w =
      (useProject copyBack settings path project).outcome s opened := by
  obtain ⟨tool, w₁, hacquire, habsolute, hopen⟩ := h
  have hconnect : (connect settings).outcome s w = some (.ok true, w₁) := by
    rw [connect, outcome_bind, outcome_attempt, hacquire]
    rfl
  have hpath : (projectPath settings).outcome s w₁ = some (.ok (some path), w₁) := by
    rw [projectPath, outcome_bind, outcome_attempt, outcome_ofFiles, FileAction.run_tryAsk,
      habsolute]
    rfl
  have hproject : (openProject path).outcome s w₁ = some (.ok (some project), opened) := by
    rw [openProject, outcome_bind, outcome_attempt, hopen]
    rfl
  rw [run, outcome_bind, hconnect, Option.bind_some]
  dsimp only
  rw [Bool.not_true, if_neg Bool.false_ne_true, outcome_bind, hpath, Option.bind_some]
  dsimp only
  rw [outcome_bind, hproject, Option.bind_some]
  rfl

/-- A session that does not open the project answers `false`. The files and all that the tool holds
are as they were, and one process was started at most. -/
theorem run_of_not_opens {copyBack : CopyBack σ} {r : Except Failure Bool}
    (hnot : ¬∃ path project opened, Opens s settings w path project opened)
    (h : (run copyBack settings).outcome s w = some (r, w')) :
    r = .ok false ∧ w'.holdings = w.holdings ∧
      (w'.launches = w.launches ∨ ∃ command, w'.launches = w.launches ++ [command]) := by
  -- What comes after the call for the tool leaves notes alone, wherever the session ends.
  have hend {result : Except Failure ToolRef} {w₁ : World σ}
      (hacquire : (Connection.acquire settings.acquireOptions).outcome s w = some (result, w₁))
      (hsame : OnlyNotes w₁ w') : w'.holdings = w.holdings ∧
        (w'.launches = w.launches ∨ ∃ command, w'.launches = w.launches ++ [command]) := by
    refine ⟨(hsame.view_eq timeless_holdings).trans (Connection.acquire_keeps hacquire), ?_⟩
    have hlaunches : w'.launches = w₁.launches := hsame.view_eq fun _ _ _ _ _ _ => rfl
    rw [hlaunches]
    exact Connection.acquire_launches hacquire
  rcases bind_cases h with ⟨connected, w₁, hconnect, h⟩ | ⟨failure, hconnect, rfl⟩
  rotate_left
  · rcases connect_cases hconnect with ⟨_, -, hr⟩ | ⟨_, _, -, hr, -⟩ <;> cases hr
  rcases connect_cases hconnect with ⟨tool, hacquire, hr⟩ | ⟨failure, w₀, hacquire, hr, hsame⟩
  rotate_left
  · cases hr
    simp only [Bool.not_false, if_true, outcome_pure, Option.some.injEq, Prod.mk.injEq] at h
    obtain ⟨rfl, rfl⟩ := h
    exact ⟨rfl, hend hacquire hsame⟩
  cases hr
  simp only [Bool.not_true, Bool.false_eq_true, if_false] at h
  rcases bind_cases h with ⟨answer, w₂, hpath, h⟩ | ⟨failure, hpath, rfl⟩
  rotate_left
  · rcases projectPath_cases hpath with ⟨_, -, hr, -⟩ | ⟨-, hr, -⟩ <;> cases hr
  rcases projectPath_cases hpath with ⟨path, habsolute, hr, rfl⟩ | ⟨-, hr, hsame⟩
  rotate_left
  · cases hr
    simp only [outcome_pure, Option.some.injEq, Prod.mk.injEq] at h
    obtain ⟨rfl, rfl⟩ := h
    exact ⟨rfl, hend hacquire hsame⟩
  cases hr
  rcases bind_cases h with ⟨answer, w₃, hopen, h⟩ | ⟨failure, hopen, rfl⟩
  rotate_left
  · rcases openProject_cases hopen with ⟨_, -, hr⟩ | ⟨_, _, -, hr, -⟩ <;> cases hr
  rcases openProject_cases hopen with ⟨project, hgiven, -⟩ | ⟨failure, w₄, hfailed, hr, hsame⟩
  · exact absurd ⟨path, project, w₃, tool, _, hacquire, habsolute, hgiven⟩ hnot
  · cases hr
    simp only [outcome_pure, Option.some.injEq, Prod.mk.injEq] at h
    obtain ⟨rfl, rfl⟩ := h
    rcases Isolation.openProject_cases hfailed with ⟨-, hleft⟩ | ⟨_, hr, -⟩
    · exact ⟨rfl, hend hacquire (hleft.trans hsame)⟩
    · cases hr

/-- A project that opens is added to the open ones, and otherwise all is as it was. -/
theorem Opens.world_eq (h : Opens s settings w path project opened) :
    opened.opened = w.opened ++ [project.number] ∧ opened.projects = w.projects ∧
      opened.runs = w.runs ∧
      (opened.launches = w.launches ∨ ∃ command, opened.launches = w.launches ++ [command]) := by
  obtain ⟨tool, w₁, hacquire, -, hopen⟩ := h
  rcases Isolation.openProject_cases hopen with ⟨⟨_, hr⟩, -⟩ | ⟨other, hr, hsame⟩
  · cases hr
  · cases hr
    have hkept : w₁.holdings = w.holdings := Connection.acquire_keeps hacquire
    have hopened : opened.opened = w₁.opened ++ [project.number] := by rw [hsame]
    have hlaunches : opened.launches = w₁.launches := by rw [hsame]
    have hprojects : opened.projects = w₁.projects := by rw [hsame]
    have hruns : opened.runs = w₁.runs := by rw [hsame]
    rw [hopened, hlaunches, hprojects, hruns]
    exact ⟨congrArg (·.opened ++ [project.number]) hkept, congrArg Holdings.projects hkept,
      congrArg Holdings.runs hkept, Connection.acquire_launches hacquire⟩

end

/-! ### What follows the case run -/

theorem closeProject_cases {r : Except Failure Unit}
    (h : (closeProject path).outcome s w = some (r, w')) :
    r = .ok () ∧ ∃ made, ClosesFirst w (w.firstFrom? path) made w' := by
  obtain ⟨result, w₁, hclose, h⟩ := attempt_bind_cases h
  obtain ⟨made, hmade⟩ := Isolation.closeProject_cases hclose
  cases result with
  | ok =>
      simp only [outcome_pure, Option.some.injEq, Prod.mk.injEq] at h
      obtain ⟨rfl, rfl⟩ := h
      exact ⟨rfl, made, hmade⟩
  | error fault =>
      simp only [outcome_note, Option.some.injEq, Prod.mk.injEq] at h
      obtain ⟨rfl, rfl⟩ := h
      exact ⟨rfl, made, hmade.noted _⟩

section
variable [FileStore σ]

/-- The answer is that of the case run. After it, the first open project that was loaded from the
file is closed, if that is what the settings ask for. -/
theorem useProject_cases {copyBack : CopyBack σ} {r : Except Failure Bool}
    (h : (useProject copyBack settings path project).outcome s w = some (r, w')) :
    ∃ answer after closing,
      (Isolation.runCase copyBack project settings.caseRequest).outcome s w =
        some (.ok answer, after) ∧ r = .ok answer ∧
      ClosesFirst after
        (if settings.execution.closeProject then after.firstFrom? path else none) closing w' := by
  rcases bind_cases h with ⟨answer, after, hrun, h⟩ | ⟨failure, hrun, rfl⟩
  · refine ⟨answer, after, ?_⟩
    cases hclose : settings.execution.closeProject with
    | true =>
        rw [hclose, if_pos rfl] at h
        rcases bind_cases h with ⟨⟨⟩, w₁, hclosed, h⟩ | ⟨failure, hclosed, rfl⟩
        · obtain ⟨-, closing, hmade⟩ := closeProject_cases hclosed
          simp only [outcome_bind, outcome_note, outcome_pure, Option.bind_some,
            Option.some.injEq, Prod.mk.injEq] at h
          obtain ⟨rfl, rfl⟩ := h
          exact ⟨closing, hrun, rfl, hmade.noted _⟩
        · cases (closeProject_cases hclosed).1
    | false =>
        rw [hclose, if_neg Bool.false_ne_true] at h
        simp only [outcome_bind, outcome_note, outcome_pure, Option.bind_some, Option.some.injEq,
          Prod.mk.injEq] at h
        obtain ⟨rfl, rfl⟩ := h
        exact ⟨[], hrun, rfl, .unclosed rfl ((OnlyNotes.refl after).noted _) fun _ => rfl⟩
  · rcases Isolation.runCase_cases hrun with ⟨_, hr, -⟩ | ⟨_, _, _, _, hr, -⟩ <;> cases hr

/-- What follows the case run comes to its end. -/
theorem useProject_ends {copyBack : CopyBack σ} (path : FilePath)
    (h : ((Isolation.runCase copyBack project settings.caseRequest).outcome s w).isSome) :
    ((useProject copyBack settings path project).outcome s w).isSome := by
  have hclose : Ends s (closeProject path : Action σ Failure Unit) := by
    refine (Isolation.closeProject_ends path).attempt.bind fun result => ?_
    cases result with
    | ok => exact ends_pure ()
    | error fault => exact ends_note _ _ _ _
  obtain ⟨⟨r, after⟩, hrun⟩ := Option.isSome_iff_exists.mp h
  rw [useProject, outcome_bind, hrun, Option.bind_some]
  cases r with
  | error failure => rfl
  | ok answer =>
      dsimp only
      cases settings.execution.closeProject with
      | true => exact (hclose.bind fun _ => (ends_note _ _ _ _).bind fun _ => ends_pure _) after
      | false => rfl

/-- A session comes to its end if getting hold of the tool does and the case run does. -/
theorem run_ends {copyBack : CopyBack σ}
    (hacquire : ((Connection.acquire settings.acquireOptions).outcome s w).isSome)
    (hrun : ∀ project, Ends s (Isolation.runCase copyBack project settings.caseRequest)) :
    ((run copyBack settings).outcome s w).isSome := by
  have hconnect : ((connect settings).outcome s w).isSome := by
    obtain ⟨⟨result, w₁⟩, hacquire⟩ := Option.isSome_iff_exists.mp hacquire
    rw [connect, outcome_bind, outcome_attempt, hacquire]
    cases result with
    | ok tool => rfl
    | error failure => rfl
  have hpath : Ends s (projectPath settings : Action σ Failure (Option FilePath)) := by
    refine (ends_ofFiles fun ws => ?_).attempt.bind fun result => ?_
    · rw [FileAction.run_tryAsk]
      rfl
    · cases result with
      | ok path => exact ends_pure _
      | error failure => exact (ends_note _ _ _ _).bind fun _ => ends_pure none
  have hopen (path : FilePath) :
      Ends s (openProject path : Action σ Failure (Option ProjectRef)) := by
    refine (Isolation.openProject_ends path).attempt.bind fun result => ?_
    cases result with
    | ok project => exact ends_pure _
    | error failure => exact (ends_note _ _ _ _).bind fun _ => ends_pure none
  obtain ⟨⟨r, w₁⟩, hconnect⟩ := Option.isSome_iff_exists.mp hconnect
  rw [run, outcome_bind, hconnect, Option.bind_some]
  cases r with
  | error failure => rfl
  | ok connected =>
      cases connected with
      | false => rfl
      | true =>
          refine hpath.bind (fun found => ?_) w₁
          cases found with
          | none => exact ends_pure false
          | some path =>
              refine (hopen path).bind fun found => ?_
              cases found with
              | none => exact ends_pure false
              | some project => exact fun w₂ => useProject_ends path (hrun project w₂)

/-! ### The whole session -/

/-- What holds when a session is over whose case run ended in the world `after`, with the calls
`closing` from there on:

- `calls`: these are the calls that follow the case run;
- `isOpen`, `loaded`: the project was opened and no other one, and every project has its file;
- `kept`: the files and the configurations are as the case run has left them;
- `others`: no project is closed but the first open one that has the path for its file;
- `stays`: no project is closed if the settings do not ask for it;
- `closed`: if they do and no call to find or to close it fails, that one is closed. -/
structure Concludes (settings : Settings) (w : World σ) (path : FilePath) (project : ProjectRef)
    (after : World σ) (closing : History) (w' : World σ) : Prop where
  calls : w'.calls = closing ++ after.calls
  isOpen : w'.opened = w.opened ++ [project.number]
  loaded : ∀ number, (w'.project number).file = (w.project number).file
  kept : w'.files = after.files ∧ ∀ c, w'.configuration c = after.configuration c
  others : ∀ number, w'.firstFrom? path ≠ some number →
    (w'.project number).closed = (w.project number).closed
  stays : settings.execution.closeProject = false →
    ∀ number, (w'.project number).closed = (w.project number).closed
  closed : settings.execution.closeProject = true → closing.Granted →
    ∀ number, w'.firstFrom? path = some number → (w'.project number).closed = true

/-- What holds when a session is over, with its answer or failure `r`:

- `launches`, `runs`: one process is started at most, and one run;
- `ways`: if the project does not open, the answer is `false`, and the files and all that the tool
  holds are as they were. Else the answer is that of the case run, however closing the project
  ends. -/
structure Accounts (copyBack : CopyBack σ) (settings : Settings) (s : Surroundings) (w : World σ)
    (r : Except Failure Bool) (w' : World σ) : Prop where
  launches : w'.launches = w.launches ∨ ∃ command, w'.launches = w.launches ++ [command]
  runs : w'.runs = w.runs ∨ ∃ record, w'.runs = w.runs ++ [record]
  ways : ((¬∃ path project opened, Opens s settings w path project opened) ∧ r = .ok false ∧
      w'.holdings = w.holdings) ∨
    ∃ path project opened answer after closing, Opens s settings w path project opened ∧
      (Isolation.runCase copyBack project settings.caseRequest).outcome s opened =
        some (.ok answer, after) ∧
      r = .ok answer ∧ Concludes settings w path project after closing w'

/-- How a session ends that opens the project. -/
theorem Opens.concludes {copyBack : CopyBack σ} {r : Except Failure Bool}
    (hopens : Opens s settings w path project opened)
    (h : (useProject copyBack settings path project).outcome s opened = some (r, w')) :
    Accounts copyBack settings s w r w' := by
  obtain ⟨answer, after, closing, hrun, rfl, hcloses⟩ := useProject_cases h
  obtain ⟨hopened, hprojects, hruns, hlaunched⟩ := hopens.world_eq
  have hkept : after.openings = opened.openings := Isolation.runCase_keeps _ _ _ hrun
  have hbefore (number : Nat) : opened.project number = w.project number := by
    rw [World.project, hprojects, World.project]
  have hclosed (number : Nat) : (after.project number).closed = (w.project number).closed :=
    (World.closed_of_openings hkept number).trans (congrArg Project.closed (hbefore number))
  -- Closing shows in the projects alone.
  have hview {γ : Type} (view : World σ → γ) (hview : Timeless view)
      (hclosing : ∀ (w : World σ) number, view (w.closing number) = view w) :
      view w' = view after := hcloses.view_eq hview hclosing
  have hlaunches : w'.launches = opened.launches :=
    (hview World.launches (fun _ _ _ _ _ _ => rfl) fun _ _ => rfl).trans
      (congrArg Openings.launches hkept)
  have hran : w'.runs = after.runs :=
    hview World.runs (fun _ _ _ _ _ _ => rfl) fun _ _ => rfl
  have hnow : w'.opened = after.opened :=
    hview World.opened (fun _ _ _ _ _ _ => rfl) fun _ _ => rfl
  refine ⟨hlaunches ▸ hlaunched, ?_, .inr ⟨path, project, opened, answer, after, closing, hopens,
    hrun, rfl, ?_⟩⟩
  · rw [hran, ← hruns]
    exact Isolation.runCase_runs hrun
  · exact {
      calls := hcloses.calls_eq
      isOpen := (hnow.trans (congrArg Openings.opened hkept)).trans hopened
      loaded := fun number => by
        rw [hcloses.file_eq, World.file_of_openings hkept, hbefore]
      kept := ⟨hview (fun w => w.files) (fun _ _ _ _ _ _ => rfl) fun _ _ => rfl,
        fun c => hview (World.configuration · c) (fun _ _ _ _ _ _ => rfl)
          fun w number => w.configuration_closing number c⟩
      others := fun number hother => by
        rw [hcloses.firstFrom?_eq] at hother
        rw [hcloses.closed_of_ne, hclosed]
        split
        · exact hother
        · exact (Option.some_ne_none number).symm
      stays := fun hstays number => by
        rw [hstays] at hcloses
        rw [hcloses.closed_of_ne (Option.some_ne_none number).symm, hclosed]
      closed := fun hasked hgranted number hfirst => by
        rw [hasked] at hcloses
        rw [hcloses.firstFrom?_eq] at hfirst
        exact hcloses.closed_of_granted hgranted hfirst }

/-- A session answers `true` if and only if the project opens and the case run answers `true`. When
it is over, things are as `Accounts` says. It does come to its end if the bound on rounds is enough
for getting hold of the tool, something puts an end to waiting for the run, and the copy of the
artifacts ends. -/
theorem run_composes (copyBack : CopyBack σ) (settings : Settings) (s : Surroundings)
    (w : World σ) :
    ((∃ w', (run copyBack settings).outcome s w = some (.ok true, w')) ↔
        ∃ path project opened after, Opens s settings w path project opened ∧
          (Isolation.runCase copyBack project settings.caseRequest).outcome s opened =
            some (.ok true, after)) ∧
      (∀ r w', (run copyBack settings).outcome s w = some (r, w') →
        Accounts copyBack settings s w r w') ∧
      ((∀ tool w₁, (findTool settings.acquireOptions).outcome s w = some (.ok tool, w₁) →
          EnoughPatience s w₁.now settings.acquireOptions.readiness.timeout
            settings.acquireOptions.readiness.interval) →
        (∃ tool, lookupAnswer s settings.acquireOptions w.calls = .ok tool) ∨
          EnoughPatience s w.now settings.acquireOptions.startupTimeout
            settings.acquireOptions.lookupInterval →
        Isolation.Bounded s settings.caseRequest.statusInterval →
        (∀ dirs, (copyBack dirs).Ends) →
        ((run copyBack settings).outcome s w).isSome) := by
  have haccounts {r : Except Failure Bool} {w' : World σ}
      (h : (run copyBack settings).outcome s w = some (r, w')) :
      Accounts copyBack settings s w r w' := by
    by_cases hopens : ∃ path project opened, Opens s settings w path project opened
    · obtain ⟨path, project, opened, hopens⟩ := hopens
      rw [run_of_opens hopens] at h
      exact hopens.concludes h
    · obtain ⟨hr, hkept, hlaunches⟩ := run_of_not_opens hopens h
      exact ⟨hlaunches, .inl (congrArg Holdings.runs hkept), .inl ⟨hopens, hr, hkept⟩⟩
  refine ⟨⟨fun ⟨w', h⟩ => ?_, fun ⟨path, project, opened, after, hopens, hrun⟩ => ?_⟩,
    fun r w' => haccounts, fun hready hstart hwait hcopy => ?_⟩
  · rcases (haccounts h).ways with
      ⟨-, hr, -⟩ | ⟨path, project, opened, answer, after, closing, hopens, hrun, hr, -⟩
    · cases hr
    · cases hr
      exact ⟨path, project, opened, after, hopens, hrun⟩
  -- What follows the case run ends, and has no part in the answer.
  · obtain ⟨⟨r, w'⟩, h⟩ := Option.isSome_iff_exists.mp
      (useProject_ends path (Option.isSome_iff_exists.mpr ⟨_, hrun⟩))
    obtain ⟨answer, other, closing, hsame, rfl, -⟩ := useProject_cases h
    cases hrun.symm.trans hsame
    exact ⟨w', (run_of_opens hopens).trans h⟩
  · exact run_ends (Connection.acquire_ends hready hstart) fun _ =>
      Isolation.runCase_ends hcopy hwait

end

/-! ### A small session -/

/-- Settings to run the one test case of the small project, and to close the project then. -/
def smallSettings : Settings :=
  let settings := Isolation.settingsWith "/d" "/r"
  { settings with execution := { settings.execution with closeProject := true } }

/-- The small project in a file, loaded twice, and one project without a file that is open. -/
def smallWorld : World Files.Tree :=
  let loaded := { Isolation.smallProject with file := some "/p" }
  { World.initial .empty [Isolation.smallProject, loaded, loaded] [[⟨"Brake", "2"⟩]] with
    opened := [0] }

/-- A tool that opens the file, grants all calls and is done with each run at once. -/
def smallTool : Surroundings :=
  { Isolation.promptTool fun _ _ => .granted with openable := [("/p", 1)], patience := 6001 }

/-- The small session answers `true`, and of the three projects the one that it has opened is
closed. -/
theorem run_composes_small :
    ∃ w', (run CopyBack.silent smallSettings).outcome smallTool smallWorld = some (.ok true, w') ∧
      (w'.project 0).closed = false ∧ (w'.project 1).closed = true ∧
      (w'.project 2).closed = false := by
  have hattached : ((findTool smallSettings.acquireOptions).outcome smallTool smallWorld).map
      (·.2.now) = some 0 := by decide +kernel
  have hready (tool : ToolRef) (w₁ : World Files.Tree)
      (hfind : (findTool smallSettings.acquireOptions).outcome smallTool smallWorld =
        some (.ok tool, w₁)) :
      EnoughPatience smallTool w₁.now smallSettings.acquireOptions.readiness.timeout
        smallSettings.acquireOptions.readiness.interval := by
    rw [hfind, Option.map_some, Option.some.injEq] at hattached
    rw [hattached]
    exact ⟨6000, rfl, .inl ⟨by decide, by decide⟩⟩
  have hwait : Isolation.Bounded smallTool smallSettings.caseRequest.statusInterval :=
    .inl ⟨0, by decide, fun _ _ _ => ⟨rfl, rfl⟩⟩
  obtain ⟨-, haccounts, hends⟩ :=
    run_composes CopyBack.silent smallSettings smallTool smallWorld
  obtain ⟨⟨r, w'⟩, h⟩ := Option.isSome_iff_exists.mp
    (hends hready (.inl ⟨⟨0⟩, rfl⟩) hwait fun _ _ => rfl)
  have hfound : ((run CopyBack.silent smallSettings).outcome smallTool smallWorld).map (fun p =>
      (p.1.toOption, p.2.firstFrom? (Files.Tree.absolute "/p"),
        p.2.calls.all (·.verdict = .granted))) = some (some true, some 1, true) := by
    decide +kernel
  rw [h, Option.map_some, Option.some.injEq] at hfound
  simp only [Prod.mk.injEq, List.all_eq_true, decide_eq_true_eq] at hfound
  obtain ⟨hr, hfirst, hgranted⟩ := hfound
  rcases (haccounts r w' h).ways with
    ⟨-, rfl, -⟩ | ⟨path, project, opened, answer, after, closing, hopens, -, rfl, hconcludes⟩
  · cases hr
  obtain ⟨tool, w₁, -, habsolute, -⟩ := hopens
  obtain rfl : Files.Tree.absolute "/p" = path := Except.ok.inj habsolute
  cases hr
  refine ⟨w', h, ?_, hconcludes.closed rfl (fun record hmem => ?_) 1 hfirst, ?_⟩
  · exact hconcludes.others 0 (by rw [hfirst]; decide)
  · rw [hconcludes.calls] at hgranted
    exact hgranted record (List.mem_append_left _ hmem)
  · exact hconcludes.others 2 (by rw [hfirst]; decide)

end CaseRunner.Session
