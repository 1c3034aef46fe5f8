import CaseRunner.Files.CopyBack
import CaseRunner.Proofs.Files.Disk
import CaseRunner.Proofs.Files.Tree

/-!
# `CaseRunner.Proofs.Files.FinalName`: the final names of absolute paths

Directories are copied under the final names of their absolute paths. An absolute path ends as
the path itself does, if that has steps of its own. A relative path without any, such as a dot,
leads to the working directory and has the final name of that (`nameFrom`).

* `Tree.fileName_absolute`, `Disk.fileName_absolute`: the final name of an absolute path.
* `copyTargets_pair`: two directories are copied if they have final names that differ.
-/

set_option autoImplicit false

namespace CaseRunner

namespace FilePath

variable {p : FilePath} {working : Option Segment}

/-- The name at the end of a way. -/
def lastName (steps : List Component) : Option Segment :=
  match steps.getLast? with
  | some (.name name) => some name
  | _ => none

theorem fileName_eq (p : FilePath) : p.fileName = lastName p.components := rfl

theorem lastName_append {later : List Component} (h : later ≠ []) (before : List Component) :
    lastName (before ++ later) = lastName later := by
  rw [lastName, List.getLast?_append_of_ne_nil before h]
  rfl

/-- The names of a way down. -/
theorem lastName_names (names : List Segment) :
    lastName (names.map Component.name) = names.getLast? := by
  rw [lastName, List.getLast?_map]
  cases names.getLast? <;> rfl

/-- The final name of a path for a directory with the final name `working`. A relative path that
has no steps leads to that directory. -/
def nameFrom (working : Option Segment) (p : FilePath) : Option Segment :=
  if p.rooted = false ∧ p.segments.filterMap stepOf = [] then working else p.fileName

/-- If the segments of a path are steps, its final name is the name at their end. -/
theorem fileName_of_steps (h : p.segments.filterMap stepOf ≠ []) :
    p.fileName = lastName (p.segments.filterMap stepOf) := by
  rw [fileName_eq, components, lastName_append h]

/-- A path with a final name of its own has that from everywhere. -/
theorem nameFrom_of_fileName {name : Segment} (h : p.fileName = some name) :
    p.nameFrom working = some name := by
  rw [nameFrom, if_neg, h]
  rintro ⟨hrelative, hsteps⟩
  rw [fileName_eq, components, headComponents, hsteps, List.append_nil, hrelative] at h
  simp only [Bool.false_eq_true, if_false] at h
  split at h <;> cases h

end FilePath

namespace Files

variable {path absolute : FilePath}

/-- In memory a relative path is seen from the home directory. -/
theorem Tree.fileName_absolute (path : FilePath) :
    (Tree.absolute path).fileName = path.nameFrom Tree.home.fileName := by
  unfold Tree.absolute FilePath.nameFrom
  cases hrooted : path.rooted with
  | true => simp
  | false =>
      have hhome : Tree.home.isEmpty = false := by decide +kernel
      have hcomponents := FilePath.components_join hhome hrooted
      simp only [Bool.false_eq_true, if_false, true_and]
      rw [FilePath.fileName_eq, hcomponents]
      split
      · rename_i hsteps
        rw [hsteps, List.append_nil, FilePath.fileName_eq]
      · rename_i hsteps
        rw [FilePath.lastName_append hsteps, FilePath.fileName_of_steps hsteps]

namespace Disk

variable {d : Disk}

/-- The names of the working directory are such that entries can have them. -/
def ProperWorking (d : Disk) : Prop :=
  ∀ name ∈ d.working, FilePath.stepOf name = some (.name name)

/-- An absolute path depends on the working directory alone. -/
theorem absolute_congr {next : Disk} (h : next.working = d.working) (path : FilePath) :
    next.absolute path = d.absolute path := by
  rw [Disk.absolute, Disk.absolute, h]

/-- Clearing a directory leaves the working directory. -/
theorem working_clearDir (path : FilePath) (d : Disk) :
    ((clearDir path).run.run d).2.working = d.working := by
  show (clearDir path d).2.working = d.working
  unfold clearDir
  split <;> rfl

/-- Creating a directory leaves the working directory. -/
theorem working_createDir (path : FilePath) (d : Disk) :
    ((createDir path).run.run d).2.working = d.working := by
  rw [run_createDir]
  exact (makeDirs_changedAt d path []).working

/-- A path that names something has an absolute path. -/
theorem exists_absolute (d : Disk) (h : path.isEmpty = false) :
    ∃ absolute, d.absolute path = .ok absolute := by
  unfold Disk.absolute
  rw [if_neg (by simp [h])]
  exact ⟨_, rfl⟩

/-- Dots and doubled slashes are no steps. -/
theorem filterMap_filter_kept (segments : List Segment) :
    (segments.filter fun s => !s.isEmpty && s ≠ ['.']).filterMap FilePath.stepOf =
      segments.filterMap FilePath.stepOf := by
  rw [List.filterMap_filter]
  congr 1
  funext s
  unfold FilePath.stepOf
  by_cases hempty : s = [] <;> by_cases hdot : s = ['.'] <;> simp [hempty, hdot]

/-- An absolute path is the way to the working directory, if it is needed, and then the steps of
the path. -/
theorem components_absolute (hworking : d.ProperWorking) (h : d.absolute path = .ok absolute) :
    absolute.components = .root ::
      ((if path.rooted then [] else d.working.map Component.name) ++
        path.segments.filterMap FilePath.stepOf) := by
  unfold Disk.absolute at h
  split at h
  · cases h
  · cases h
    have htrailing : (if path.endsInSlash then [[]] else [] : List Segment).filterMap
        FilePath.stepOf = [] := by
      split <;> rfl
    simp only [FilePath.components, FilePath.headComponents, if_true, List.filterMap_append,
      filterMap_filter_kept, htrailing, List.append_nil, List.singleton_append]
    congr 2
    -- What leads to the path is slashes, or the names of the working directory.
    cases path.rooted with
    | true =>
        simp only [if_true]
        split <;> rfl
    | false =>
        simp only [Bool.false_eq_true, if_false]
        rw [List.filterMap_congr hworking, ← List.filterMap_eq_map]
        rfl

/-- On a disk a relative path is seen from the working directory. -/
theorem fileName_absolute (hworking : d.ProperWorking) (h : d.absolute path = .ok absolute) :
    absolute.fileName = path.nameFrom d.working.getLast? := by
  rw [FilePath.fileName_eq, components_absolute hworking h, FilePath.nameFrom]
  by_cases hsteps : path.segments.filterMap FilePath.stepOf = []
  · cases hrooted : path.rooted with
    | true =>
        simp [hsteps, hrooted, FilePath.fileName_eq, FilePath.components, FilePath.headComponents]
    | false =>
        simp only [hsteps, Bool.false_eq_true, if_false, List.append_nil, true_and, if_true]
        -- At the root itself there is no name.
        cases hnames : d.working with
        | nil => rfl
        | cons name names =>
            rw [← List.singleton_append, FilePath.lastName_append (by simp),
              FilePath.lastName_names]
  · rw [← List.cons_append, FilePath.lastName_append hsteps, FilePath.fileName_of_steps hsteps]
    simp only [hsteps, and_false, if_false]

end Disk

/-! ### Two directories -/

/-- Two directories are copied if they have final names that differ, each to its name in the
destination. -/
theorem copyTargets_pair {destination dir other : FilePath} {targets : List FilePath} :
    copyTargets destination [] [dir, other] = .ok targets ↔
      ∃ name otherName, dir.fileName = some name ∧ other.fileName = some otherName ∧
        name ≠ otherName ∧ targets = [destination.child name, destination.child otherName] := by
  cases hname : dir.fileName with
  | none => simp [copyTargets, hname]
  | some name =>
      cases hother : other.fileName with
      | none => simp [copyTargets, hname, hother, Except.map]
      | some otherName =>
          by_cases hsame : otherName = name
          · simp [copyTargets, hname, hother, hsame, Except.map]
          · simp [copyTargets, hname, hother, hsame, Except.map, eq_comm]

end Files

end CaseRunner
