import CaseRunner.Proofs.Isolation.Detached
import CaseRunner.Proofs.Isolation.Success

/-!
# `CaseRunner.Proofs.Isolation.Keeping`: what a case run leaves alone

A case run changes the settings of a configuration, the test sets of a project and files. It
opens and closes no project, loads none from another file, and starts no process
(`runCase_keeps`). One run is started at most (`runCase_runs`).
-/

set_option autoImplicit false

namespace CaseRunner.Remote

/-- Which projects are open, which of them were closed, and the processes. -/
structure Openings where
  /-- The projects that were opened, by number, in order. -/
  opened : List Nat
  /-- For each project its file, and whether it was closed. -/
  projects : List (Option FilePath × Bool)
  /-- The commands that were used to start the tool, in order. -/
  launches : List Connection.Command

namespace World

variable {σ : Type} {w w' : World σ}

/-- The file of each project, whether it is open, and the processes. -/
def openings (w : World σ) : Openings where
  opened := w.opened
  projects := w.projects.map fun p => (p.file, p.closed)
  launches := w.launches

theorem timeless_openings : Timeless (openings (σ := σ)) := fun _ _ _ _ _ _ => rfl

/-- A project can be changed without its file and without closing it. -/
theorem openings_updateProject (w : World σ) (number : Nat) (change : Project → Project)
    (h : ∀ p, (change p).file = p.file ∧ (change p).closed = p.closed) :
    (w.updateProject number change).openings = w.openings := by
  have hprojects : (w.projects.modify number change).map (fun p => (p.file, p.closed)) =
      w.projects.map fun p => (p.file, p.closed) := by
    apply List.ext_getElem?
    intro index
    simp only [List.getElem?_map, List.getElem?_modify]
    cases w.projects[index]? with
    | none => rfl
    | some p => by_cases heq : number = index <;> simp [heq, h]
  simp only [openings, updateProject, hprojects]

/-- A project has the file that its number says, and is closed or not. -/
theorem project_openings (w : World σ) (number : Nat) :
    ((w.project number).file, (w.project number).closed) =
      w.openings.projects.getD number (none, false) := by
  simp only [openings, project, List.getD, List.getElem?_map]
  cases w.projects[number]? <;> rfl

theorem file_of_openings (h : w'.openings = w.openings) (number : Nat) :
    (w'.project number).file = (w.project number).file := by
  have hproject := w'.project_openings number
  rw [h, ← w.project_openings number] at hproject
  exact congrArg Prod.fst hproject

theorem closed_of_openings (h : w'.openings = w.openings) (number : Nat) :
    (w'.project number).closed = (w.project number).closed := by
  have hproject := w'.project_openings number
  rw [h, ← w.project_openings number] at hproject
  exact congrArg Prod.snd hproject

end World

end CaseRunner.Remote

namespace CaseRunner.Isolation

open CaseRunner.Config (CaseRequest Millis)
open CaseRunner.Files (FileStore CopyBack)
open CaseRunner.Remote
open CaseRunner.Remote.Action

variable {σ γ : Type} {s : Surroundings} {w w' : World σ} {view : World σ → γ}

theorem detached_openings : Detached (World.openings (σ := σ)) where
  timeless := World.timeless_openings
  updateProject w number change h := w.openings_updateProject number change h
  contents _ _ := rfl

/-! ### Changes -/

theorem keeps_orStop {α : Type} {applied : Applied} {step : Action σ Failure α}
    {next : α → Action σ Failure Progress} (hstep : Keeps view step)
    (hnext : ∀ a, Keeps view (next a)) : Keeps view (orStop applied step next) := by
  refine hstep.attempt.bind fun result => ?_
  cases result with
  | ok a => exact hnext a
  | error failure => exact keeps_pure _

section
variable [FileStore σ]

theorem keeps_isolateData (config : ConfigRef) (request : CaseRequest) :
    Keeps World.openings (isolateData config request : Action σ Failure FilePath) := by
  refine (keeps_ofFiles fun _ _ => rfl).bind fun dir => ?_
  refine (keeps_note World.timeless_openings _ _ _ _).bind fun _ => ?_
  exact (keeps_setDataDir detached_openings config _).mapFailure.bind fun _ => keeps_pure dir

theorem keeps_isolateReport (config : ConfigRef) (request : CaseRequest) :
    Keeps World.openings (isolateReport config request : Action σ Failure FilePath) := by
  refine (keeps_ofFiles fun _ _ => rfl).bind fun dir => ?_
  refine (keeps_note World.timeless_openings _ _ _ _).bind fun _ => ?_
  exact (keeps_setReportDir detached_openings config _).mapFailure.bind fun _ => keeps_pure dir

theorem keeps_startRun (config : ConfigRef) (testCase : TestCase) (scope : Scope)
    (set : TestSetRef) (request : CaseRequest) :
    Keeps World.openings (startRun config testCase scope set request : Action σ Failure Nat) := by
  have hrun : Keeps World.openings (run config : Action σ RemoteFault Nat) := by
    refine keeps_perform World.timeless_openings fun _ => keeps_get.bind fun w => ?_
    refine keeps_read.bind fun surroundings => keeps_get.bind fun _ => ?_
    refine (keeps_modify fun v => ?_).bind fun _ => keeps_pure _
    -- What the run writes changes the files alone.
    rw [foldl_produce]
    rfl
  refine Keeps.mapFailure ((keeps_addTestCase detached_openings set testCase).bind fun _ => ?_)
  refine (keeps_assignAll detached_openings set _).bind fun _ => ?_
  exact (keeps_note World.timeless_openings _ _ _ _).bind fun _ => hrun

theorem keeps_changeAndRun (project : ProjectRef) (config : ConfigRef) (testCase : TestCase)
    (scope : Scope) (request : CaseRequest) :
    Keeps World.openings
      (changeAndRun project config testCase scope request : Action σ Failure Progress) := by
  refine keeps_orStop (keeps_isolateData config request) fun dataDir => ?_
  refine keeps_orStop (keeps_isolateReport config request) fun reportDir => ?_
  refine keeps_orStop (keeps_createTempSet detached_openings project request) fun set => ?_
  refine keeps_orStop (keeps_startRun config testCase scope set request) fun number => ?_
  refine keeps_read.bind fun surroundings => ?_
  exact keeps_orStop (keeps_awaitCompletion detached_openings _ _ _) fun _ => keeps_pure _

end

/-! ### Putting things back -/

theorem keeps_keepArtifacts (copyBack : CopyBack σ) (dirs : List FilePath) :
    Keeps World.openings (keepArtifacts copyBack dirs) := by
  refine (keeps_modify ?_).bind fun _ => ?_
  · exact fun _ => rfl
  refine (keeps_ofFiles fun _ _ => rfl).attempt.bind fun result => ?_
  cases result with
  | ok => exact keeps_pure ()
  | error failure => exact keeps_note World.timeless_openings _ _ _ _

theorem keeps_compensate (copyBack : CopyBack σ) (project : ProjectRef) (config : ConfigRef)
    (scope : Scope) (applied : Applied) :
    Keeps World.openings (compensate copyBack project config scope applied) := by
  -- The artifacts are copied only if the run was started, and the rest is done in both cases.
  refine (keeps_restoreItems detached_openings _ _).bind fun _ => ?_
  refine (keeps_keepArtifacts copyBack _).sometimes fun _ => ?_
  refine (keeps_restoreDirectories detached_openings scope config).bind fun _ => ?_
  cases applied.tempTestSet with
  | none => exact keeps_pure _
  | some set => exact (keeps_deleteTempSet detached_openings project set).bind fun _ => keeps_pure _

/-! ### The whole case run -/

section
variable [FileStore σ]

/-- Whatever comes of a case run, the same projects are open, and none has been closed. -/
theorem runCase_keeps (copyBack : CopyBack σ) (project : ProjectRef) (request : CaseRequest) :
    Keeps World.openings (runCase copyBack project request) := by
  have hview := detached_openings (σ := σ)
  refine (keeps_resolve hview project request).attempt.bind fun resolved => ?_
  cases resolved with
  | error failure => exact (keeps_note hview.timeless _ _ _ _).bind fun _ => keeps_pure false
  | ok found =>
      obtain ⟨config, testCase⟩ := found
      refine (keeps_capture hview config).attempt.bind fun captured => ?_
      cases captured with
      | error fault => exact (keeps_note hview.timeless _ _ _ _).bind fun _ => keeps_pure false
      | ok scope =>
          refine (keeps_changeAndRun project config testCase scope request).bind fun progress => ?_
          have hrest (ok : Bool) : Keeps World.openings (show Action σ Failure Bool from do
              let restored ← compensate copyBack project config scope progress.applied
              return ok && restored) :=
            (keeps_compensate copyBack project config scope _).bind fun _ => keeps_pure _
          cases progress.result with
          | ok => exact hrest true
          | error failure =>
              exact (keeps_note hview.timeless _ _ _ _).bind fun _ => hrest false

/-- A case run starts one run at most. -/
theorem runCase_runs {copyBack : CopyBack σ} {project : ProjectRef} {request : CaseRequest}
    {r : Except Failure Bool} (h : (runCase copyBack project request).outcome s w = some (r, w')) :
    w'.runs = w.runs ∨ ∃ record, w'.runs = w.runs ++ [record] := by
  rcases runCase_cases h with ⟨asked, -, hasks, -⟩ | ⟨config, testCase, p, answer, -, -, hrun, -⟩
  · exact .inl hasks.runs
  rw [hrun.tool.runs]
  by_cases hasked : ∃ record ∈ p.made, StartsRun record.call
  -- The one call for a run makes one, if it is granted.
  · obtain ⟨⟨_, v⟩, hmem, c, rfl⟩ := hasked
    obtain ⟨later, earlier, hmade⟩ := List.append_of_mem hmem
    obtain ⟨-, honce, -⟩ := hrun.isolated hmade
    rw [hmade, runs_replay_of_once w honce]
    by_cases hv : v = .granted
    · exact .inr ⟨_, by rw [if_pos hv]⟩
    · exact .inl (by rw [if_neg hv, List.append_nil])
  · exact .inl (w.runs_replay fun record hmem c hcall => hasked ⟨record, hmem, c, hcall⟩)

end

end CaseRunner.Isolation
