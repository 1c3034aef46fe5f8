import CaseRunner.Proofs.Isolation.Detached

/-!
# `CaseRunner.Proofs.Isolation.Undo`: putting things back, step by step

Putting back goes through all of its steps whatever becomes of each. Which steps there are
depends on the scope and on the changes that were made, and on nothing that happens on the
way. This is the relation `Undone` between the world before and after. The artifacts are copied
in the world that the calls for the items have led to, and what the copy makes of the files
(`Copied`) is what is left of them at the end. The answer is `true` if all calls that put
something back were granted (`compensate_cases`); the copy of the artifacts and the end of the
temporary test set do not count.
-/

set_option autoImplicit false

namespace CaseRunner.Isolation

open CaseRunner.Files (FileStore CopyBack)
open CaseRunner.Remote
open CaseRunner.Remote.Action

variable {σ : Type} {s : Surroundings} {w w' : World σ}

/-- The call that puts the test set of an item back. -/
def Assignment.restoring (a : Assignment) : Call := .setTestSet a.item a.testSet

/-- The calls that put the directories back. -/
def Scope.restoringDirs (scope : Scope) (config : ConfigRef) : List Call :=
  [.setDataDir config scope.dataDir, .setReportDir config scope.reportDir]

/-- The calls that end the temporary test set, if it was created. -/
def Applied.cleaningUp (applied : Applied) (project : ProjectRef) : List Call :=
  match applied.tempTestSet with
  | some set => [.setName set, .deleteTestSet project set]
  | none => []

/-- The workspace once a copy is over that ended with `result`: it is as the copy has left it,
with a note if the copy failed. -/
def afterCopy (result : Except Failure Unit) (workspace : Workspace σ) : Workspace σ :=
  match result with
  | .ok () => workspace
  | .error failure => workspace.note
    ⟨.error, .transaction, "could not copy results back", [("error", failure.message)]⟩

/-- The artifacts in the directories have been copied: `copyBack` has come to its end in the
workspace of `w`, and that is all that has happened. -/
def Copied (copyBack : CopyBack σ) (dirs : List FilePath) (w w' : World σ) : Prop :=
  ∃ result workspace, (copyBack dirs).run.run w.toWorkspace = some (result, workspace) ∧
    w' = { w with
      toWorkspace := afterCopy result workspace
      copies := w.copies ++ [⟨w.calls.length, dirs⟩] }

/-- The artifacts have been copied on the condition, and otherwise nothing has happened. -/
def CopiedIf (condition : Prop) (copyBack : CopyBack σ) (dirs : List FilePath)
    (w w' : World σ) : Prop :=
  (condition → Copied copyBack dirs w w') ∧ (¬condition → w' = w)

/-- What putting back does: the calls for the items lead to `before`, where the artifacts are
copied if the run was started. From `after` on there are the calls for the directories and those
for the temporary test set. Files are changed by the copy alone. -/
structure Undone (copyBack : CopyBack σ) (project : ProjectRef) (config : ConfigRef)
    (scope : Scope) (applied : Applied) (w : World σ) (items : History) (before after : World σ)
    (dirs cleanup : History) (w' : World σ) : Prop where
  toCopy : Course w items before
  filesToCopy : before.files = w.files
  runsToCopy : before.runs = w.runs
  copied : CopiedIf (applied.runStarted = true) copyBack applied.dirs before after
  fromCopy : Course after (cleanup ++ dirs) w'
  filesFromCopy : w'.files = after.files
  itemCalls : items.sequence = scope.assignments.map Assignment.restoring
  dirCalls : dirs.sequence = scope.restoringDirs config
  cleanupCalls : cleanup.sequence = applied.cleaningUp project

/-! ### The copy among the calls -/

section
variable {copyBack : CopyBack σ} {dirs : List FilePath} {condition : Prop} {u v : World σ}

/-- Copying the artifacts makes no calls. -/
theorem Copied.calls (h : Copied copyBack dirs w w') : w'.calls = w.calls := by
  obtain ⟨_, _, -, rfl⟩ := h
  rfl

/-- The tool is not concerned. -/
theorem Copied.sameTool (h : Copied copyBack dirs w w') : w'.SameTool w := by
  obtain ⟨_, _, -, rfl⟩ := h
  exact ⟨rfl, rfl, rfl⟩

theorem CopiedIf.calls (h : CopiedIf condition copyBack dirs w w') : w'.calls = w.calls := by
  by_cases hcondition : condition
  · exact (h.1 hcondition).calls
  · rw [h.2 hcondition]

theorem CopiedIf.sameTool (h : CopiedIf condition copyBack dirs w w') : w'.SameTool w := by
  by_cases hcondition : condition
  · exact (h.1 hcondition).sameTool
  · exact h.2 hcondition ▸ .refl w

/-- The copy is recorded with the number of the calls before it. -/
theorem CopiedIf.copies [Decidable condition] (h : CopiedIf condition copyBack dirs w w') :
    w'.copies = w.copies ++ if condition then [⟨w.calls.length, dirs⟩] else [] := by
  by_cases hcondition : condition
  · obtain ⟨_, _, -, rfl⟩ := h.1 hcondition
    rw [if_pos hcondition]
  · rw [h.2 hcondition, if_neg hcondition, List.append_nil]

/-- What holds on one of two equivalent conditions holds on the other. -/
theorem CopiedIf.congr {other : Prop} (h : CopiedIf condition copyBack dirs w w')
    (hiff : other ↔ condition) : CopiedIf other copyBack dirs w w' :=
  ⟨fun hother => h.1 (hiff.mp hother), fun hother => h.2 (mt hiff.mpr hother)⟩

variable {earlier later : History}

/-- The calls before the copy and those after it, in one course but for the record of the
copy. -/
theorem CopiedIf.between (hcopied : CopiedIf condition copyBack dirs u v)
    (hbefore : Course w earlier u) (hafter : Course v later w') :
    w'.calls = later ++ earlier ++ w.calls ∧ w'.SameTool (w.replay (later ++ earlier)) := by
  constructor
  · rw [hafter.calls, hcopied.calls, hbefore.calls, List.append_assoc]
  · rw [World.replay_append]
    exact hafter.tool.trans ((hcopied.sameTool.trans hbefore.tool).replay later)

end

section
variable {copyBack : CopyBack σ} {project : ProjectRef} {config : ConfigRef} {scope : Scope}
  {applied : Applied} {items dirs cleanup : History} {before after : World σ}

theorem Undone.calls
    (h : Undone copyBack project config scope applied w items before after dirs cleanup w') :
    w'.calls = cleanup ++ dirs ++ items ++ w.calls := (h.copied.between h.toCopy h.fromCopy).1

theorem Undone.tool
    (h : Undone copyBack project config scope applied w items before after dirs cleanup w') :
    w'.SameTool (w.replay (cleanup ++ dirs ++ items)) :=
  (h.copied.between h.toCopy h.fromCopy).2

end

/-! ### One step -/

/-- An attempt at a command, with a note if it fails, does not fail itself. It is one call,
and the answer is whether that was granted. -/
theorem attemptCommand_cases {call : Call} {change : World σ → World σ} {message : String}
    {fields : RemoteFault → List (String × String)} {r : Except Failure Bool}
    (hchange : ∀ w, change w = w.obey call)
    (h : (show Action σ Failure Bool from do
      match ← attempt (command call change) with
      | .ok () => return true
      | .error fault =>
        note .error .snapshot message (fields fault)
        return false).outcome s w = some (r, w')) :
    ∃ v restored, Course w [⟨call, v⟩] w' ∧ r = .ok restored ∧
      (restored = true ↔ v = .granted) := by
  obtain ⟨result, w₁, h₁, h⟩ := attempt_bind_cases h
  obtain ⟨v, hcourse, -, ⟨rfl, hv⟩ | ⟨⟨fault, rfl⟩, hv⟩⟩ := command_course hchange h₁
  · simp only [outcome_pure, Option.some.injEq, Prod.mk.injEq] at h
    obtain ⟨rfl, rfl⟩ := h
    exact ⟨v, true, hcourse, rfl, by simp [hv]⟩
  · have h := note_bind_cases h
    simp only [outcome_pure, Option.some.injEq, Prod.mk.injEq] at h
    obtain ⟨rfl, rfl⟩ := h
    exact ⟨v, false, hcourse.noted _, rfl, by simp [hv]⟩

/-- Putting the test set of an item back is one call, and the answer is whether it was
granted. -/
theorem restoreItem_cases {index : Nat} {a : Assignment} {r : Except Failure Bool}
    (h : (Scope.restoreItem index a).outcome s w = some (r, w')) :
    ∃ v restored, Course w [⟨a.restoring, v⟩] w' ∧ r = .ok restored ∧
      (restored = true ↔ v = .granted) :=
  attemptCommand_cases (fun _ => rfl) h

/-- Putting a directory back is one call, and the answer is whether it was granted. -/
theorem restoreDirectory_cases {what : String} {call : Call} {change : World σ → World σ}
    {r : Except Failure Bool} (hchange : ∀ w, change w = w.obey call)
    (h : (Scope.restoreDirectory what (command call change)).outcome s w = some (r, w')) :
    ∃ v restored, Course w [⟨call, v⟩] w' ∧ r = .ok restored ∧
      (restored = true ↔ v = .granted) :=
  attemptCommand_cases hchange h

/-! ### The test sets and the directories -/

/-- Putting test sets back is one call for each item, whatever becomes of the others. -/
theorem restoreItems_cases {assignments : List Assignment} {index : Nat}
    {r : Except Failure Bool}
    (h : (Scope.restoreItems index assignments).outcome s w = some (r, w')) :
    ∃ made restored, Course w made w' ∧ made.sequence = assignments.map Assignment.restoring ∧
      r = .ok restored ∧ (restored = true ↔ made.Granted) := by
  induction assignments generalizing index w w' r with
  | nil =>
      simp only [Scope.restoreItems, outcome_pure, Option.some.injEq, Prod.mk.injEq] at h
      obtain ⟨rfl, rfl⟩ := h
      exact ⟨[], true, .refl w, rfl, rfl, by simp⟩
  | cons a rest ih =>
      rw [Scope.restoreItems] at h
      -- Both answers are known before they are joined, so the rest is tried even if this one
      -- failed.
      rcases bind_cases h with ⟨restored, w₁, h₁, h⟩ | ⟨failure, h₁, rfl⟩
      · obtain ⟨v, first, hfirst, hr, hiff⟩ := restoreItem_cases h₁
        cases hr
        rcases bind_cases h with ⟨others, w₂, h₂, h⟩ | ⟨failure, h₂, rfl⟩
        · obtain ⟨made, restored, hrest, hseq, hr, hall⟩ := ih h₂
          cases hr
          simp only [outcome_pure, Option.some.injEq, Prod.mk.injEq] at h
          obtain ⟨rfl, rfl⟩ := h
          refine ⟨made ++ [⟨a.restoring, v⟩], _, hfirst.trans hrest, ?_, rfl, ?_⟩
          · rw [History.sequence_append, hseq]
            rfl
          · rw [Bool.and_eq_true, hall, hiff, History.granted_append]
            simp [History.Granted]
        · obtain ⟨_, _, -, -, hr, -⟩ := ih h₂
          cases hr
      · obtain ⟨_, _, -, hr, -⟩ := restoreItem_cases h₁
        cases hr

/-- Putting the directories back is a call for the data directory and then one for the
report directory, whatever becomes of the first. -/
theorem restoreDirectories_cases {scope : Scope} {config : ConfigRef} {r : Except Failure Bool}
    (h : (scope.restoreDirectories config).outcome s w = some (r, w')) :
    ∃ made restored, Course w made w' ∧ made.sequence = scope.restoringDirs config ∧
      r = .ok restored ∧ (restored = true ↔ made.Granted) := by
  rw [Scope.restoreDirectories] at h
  have h := note_bind_cases h
  rcases bind_cases h with ⟨restored, w₁, h₁, h⟩ | ⟨failure, h₁, rfl⟩
  · obtain ⟨v₁, data, hdata, hr, hiff₁⟩ := restoreDirectory_cases (fun _ => rfl) h₁
    cases hr
    rcases bind_cases h with ⟨restored, w₂, h₂, h⟩ | ⟨failure, h₂, rfl⟩
    · obtain ⟨v₂, report, hreport, hr, hiff₂⟩ := restoreDirectory_cases (fun _ => rfl) h₂
      cases hr
      simp only [outcome_pure, Option.some.injEq, Prod.mk.injEq] at h
      obtain ⟨rfl, rfl⟩ := h
      refine ⟨_, _, ((Course.refl w).noted _).trans (hdata.trans hreport), rfl, rfl, ?_⟩
      rw [Bool.and_eq_true, hiff₁, hiff₂]
      simp [History.Granted, and_comm]
    · obtain ⟨_, _, -, hr, -⟩ := restoreDirectory_cases (fun _ => rfl) h₂
      cases hr
  · obtain ⟨_, _, -, hr, -⟩ := restoreDirectory_cases (fun _ => rfl) h₁
    cases hr

/-! ### The artifacts and the temporary test set -/

/-- Keeping the artifacts runs the copy, and does not fail. -/
theorem keepArtifacts_cases {copyBack : CopyBack σ} {dirs : List FilePath}
    {r : Except Failure Unit}
    (h : (keepArtifacts copyBack dirs).outcome s w = some (r, w')) :
    r = .ok () ∧ Copied copyBack dirs w w' := by
  rw [keepArtifacts, outcome_bind] at h
  simp only [outcome_modify, Option.bind_some] at h
  obtain ⟨result, w₁, h₁, h⟩ := attempt_bind_cases h
  rw [outcome_ofFiles, Option.map_eq_some_iff] at h₁
  obtain ⟨⟨copied, workspace⟩, hrun, heq⟩ := h₁
  simp only [Prod.mk.injEq] at heq
  obtain ⟨rfl, rfl⟩ := heq
  cases copied with
  | ok =>
      simp only [outcome_pure, Option.some.injEq, Prod.mk.injEq] at h
      obtain ⟨rfl, rfl⟩ := h
      exact ⟨rfl, .ok (), workspace, hrun, rfl⟩
  | error failure =>
      simp only [outcome_note, Option.some.injEq, Prod.mk.injEq] at h
      obtain ⟨rfl, rfl⟩ := h
      exact ⟨rfl, .error failure, workspace, hrun, rfl⟩

/-- Asking for a name and going on without it if there is none is one question. -/
theorem attemptName_cases {set : TestSetRef} {r : Except RemoteFault String}
    (h : (setName set).outcome s w = some (r, w')) : ∃ v, Asks w [⟨.setName set, v⟩] w' := by
  rcases query_cases h with ⟨-, rfl⟩ | ⟨v, _, -, -, rfl⟩
  · exact ⟨.granted, .of_call w .granted rfl⟩
  · exact ⟨v, .of_call w v rfl⟩

/-- Deleting the temporary test set asks for its name and then for its end. It does not
fail. -/
theorem deleteTempSet_cases {project : ProjectRef} {set : TestSetRef} {r : Except Failure Unit}
    (h : (deleteTempSet project set).outcome s w = some (r, w')) :
    r = .ok () ∧ ∃ v₁ v₂, Course w [⟨.deleteTestSet project set, v₂⟩, ⟨.setName set, v₁⟩] w' := by
  rw [deleteTempSet] at h
  -- The name is only for the note, the test set is deleted without it too.
  obtain ⟨result, w₁, h₁, h⟩ := attempt_bind_cases h
  obtain ⟨v₁, hname⟩ := attemptName_cases h₁
  have h := note_bind_cases h
  obtain ⟨result, w₂, h₂, h⟩ := attempt_bind_cases h
  obtain ⟨v₂, hdelete, -⟩ := command_course (fun _ => rfl) h₂
  have hcourse := (hname.course.noted _).trans hdelete
  cases result with
  | ok =>
      simp only [outcome_pure, Option.some.injEq, Prod.mk.injEq] at h
      obtain ⟨rfl, rfl⟩ := h
      exact ⟨rfl, v₁, v₂, hcourse⟩
  | error fault =>
      simp only [outcome_note, Option.some.injEq, Prod.mk.injEq] at h
      obtain ⟨rfl, rfl⟩ := h
      exact ⟨rfl, v₁, v₂, hcourse.noted _⟩

/-! ### All steps -/

/-- The artifacts are copied if the run was started, and then `next` goes on. -/
theorem keepIfStarted_cases {copyBack : CopyBack σ} {applied : Applied}
    {next : Unit → Action σ Failure Bool} {r : Except Failure Bool}
    (h : (if applied.runStarted then keepArtifacts copyBack applied.dirs >>= next
      else next ()).outcome s w = some (r, w')) :
    ∃ w₁, (next ()).outcome s w₁ = some (r, w') ∧
      CopiedIf (applied.runStarted = true) copyBack applied.dirs w w₁ := by
  by_cases hstarted : applied.runStarted = true
  · rw [if_pos hstarted] at h
    rcases bind_cases h with ⟨_, w₁, h₁, h⟩ | ⟨failure, h₁, rfl⟩
    · exact ⟨w₁, h, fun _ => (keepArtifacts_cases h₁).2, fun hnot => absurd hstarted hnot⟩
    · cases (keepArtifacts_cases h₁).1
  · rw [if_neg hstarted] at h
    exact ⟨w, h, fun hyes => absurd hyes hstarted, fun _ => rfl⟩

/-- The temporary test set is ended if it was created, and then the answer is given. -/
theorem endTempSet_cases {project : ProjectRef} {applied : Applied} {answer : Bool}
    {r : Except Failure Bool}
    (h : (show Action σ Failure Bool from do
      if let some set := applied.tempTestSet then deleteTempSet project set
      return answer).outcome s w = some (r, w')) :
    ∃ made, Course w made w' ∧ w'.files = w.files ∧
      made.sequence = applied.cleaningUp project ∧ r = .ok answer := by
  cases hset : applied.tempTestSet with
  | none =>
      simp only [hset, outcome_pure, Option.some.injEq, Prod.mk.injEq] at h
      obtain ⟨rfl, rfl⟩ := h
      exact ⟨[], .refl w, rfl, by simp [Applied.cleaningUp, hset, History.sequence], rfl⟩
  | some set =>
      simp only [hset] at h
      rcases bind_cases h with ⟨_, w₁, h₁, h⟩ | ⟨failure, h₁, rfl⟩
      · simp only [outcome_pure, Option.some.injEq, Prod.mk.injEq] at h
        obtain ⟨rfl, rfl⟩ := h
        obtain ⟨-, v₁, v₂, hcourse⟩ := deleteTempSet_cases h₁
        have hfiles := congrArg Prod.fst (keeps_deleteTempSet detached_filesAndRuns project set h₁)
        exact ⟨_, hcourse, hfiles, by simp [Applied.cleaningUp, hset, History.sequence], rfl⟩
      · cases (deleteTempSet_cases h₁).1

/-- Putting everything back takes all of the steps. The answer is `true` if all calls that
put a test set or a directory back were granted. -/
theorem compensate_cases {copyBack : CopyBack σ} {project : ProjectRef} {config : ConfigRef}
    {scope : Scope} {applied : Applied} {r : Except Failure Bool}
    (h : (compensate copyBack project config scope applied).outcome s w = some (r, w')) :
    ∃ items before after dirs cleanup restored,
      Undone copyBack project config scope applied w items before after dirs cleanup w' ∧
        r = .ok restored ∧
        (restored = true ↔ items.Granted ∧ dirs.Granted) := by
  rw [compensate] at h
  -- No step fails itself, so each of the ways that end early is ruled out by what is known
  -- of the answer of that step.
  rcases bind_cases h with ⟨sets, w₁, h₁, h⟩ | ⟨failure, h₁, rfl⟩
  · obtain ⟨items, setsRestored, hitems, hitemCalls, hr, hsets⟩ := restoreItems_cases h₁
    cases hr
    obtain ⟨w₂, h, hcopied⟩ := keepIfStarted_cases h
    rcases bind_cases h with ⟨_, w₃, h₃, h⟩ | ⟨failure, h₃, rfl⟩
    · obtain ⟨dirs, dirsRestored, hdirs, hdirCalls, hr, hreset⟩ := restoreDirectories_cases h₃
      cases hr
      obtain ⟨cleanup, hend, hfiles, hcleanup, rfl⟩ := endTempSet_cases h
      -- Apart from the copy, all of this is for the tool alone.
      obtain ⟨hitemFiles, hruns⟩ :=
        Prod.mk.inj (keeps_restoreItems detached_filesAndRuns scope.assignments 0 h₁)
      have hdirFiles : w₃.files = w₂.files :=
        congrArg Prod.fst (keeps_restoreDirectories detached_filesAndRuns scope config h₃)
      exact ⟨items, w₁, w₂, dirs, cleanup, _, {
        toCopy := hitems
        filesToCopy := hitemFiles
        runsToCopy := hruns
        copied := hcopied
        fromCopy := hdirs.trans hend
        filesFromCopy := hfiles.trans hdirFiles
        itemCalls := hitemCalls
        dirCalls := hdirCalls
        cleanupCalls := hcleanup }, rfl, by rw [Bool.and_eq_true, hsets, hreset]⟩
    · obtain ⟨_, _, -, -, hr, -⟩ := restoreDirectories_cases h₃
      cases hr
  · obtain ⟨_, _, -, -, hr, -⟩ := restoreItems_cases h₁
    cases hr

end CaseRunner.Isolation
