import CaseRunner.Proofs.Config.Accepted
import CaseRunner.Proofs.Files.FinalName
import CaseRunner.Proofs.Isolation.Directories

/-!
# `CaseRunner.Proofs.Isolation.Artifacts`: the directories whose artifacts are copied

A case run hands the absolute paths of its two directories to be copied back (`runCase_hands`).
To copy them they need final names that differ. The check of the configuration compares the final
names as they are spelled, before the paths are absolute, and takes a path without one to differ
from all others. So an accepted configuration can still have its artifacts refused after the run
(`refused_after_check`). `copyTargets_of_check` says exactly when they are not.
-/

set_option autoImplicit false

namespace CaseRunner.Isolation

open CaseRunner.Config (CaseRequest Execution Settings Source)
open CaseRunner.Files
open CaseRunner.Remote

/-! ### What is handed over -/

section

variable {σ : Type} [FileStore σ] {s : Surroundings} {w w' : World σ} {project : ProjectRef}
  {config : ConfigRef} {testCase : TestCase} {scope : Scope} {request : CaseRequest} {files : σ}
  {set : TestSetRef} {number : Nat} {made : History} {applied : Applied} {ok : Bool}

/-- If the run was started, the directories to be copied are those that were prepared. -/
theorem Forward.dirs_of_started
    (h : Forward project config testCase scope request files set number made applied ok)
    (hstarted : applied.runStarted = true) : ∃ dataDir reportDir,
      DirsPrepared files request dataDir reportDir ∧ applied.dirs = [dataDir, reportDir] := by
  cases h with
  | data | report | create | start => cases hstarted
  | @wait _ _ _ dataDir reportDir _ hdirs => exact ⟨dataDir, reportDir, hdirs, rfl⟩

/-- A case run hands over the directories that it has prepared, or nothing. -/
theorem runCase_hands {copyBack : CopyBack σ} {r : Except Failure Bool}
    (h : (runCase copyBack project request).outcome s w = some (r, w')) :
    ∃ handed, w'.copies = w.copies ++ handed ∧ ∀ copy ∈ handed, ∃ dataDir reportDir,
      DirsPrepared w.files request dataDir reportDir ∧ copy.dirs = [dataDir, reportDir] := by
  rcases runCase_cases h with ⟨asked, -, hasks, -⟩ |
    ⟨config, testCase, p, answer, -, -, hrun, -, before, after, hcopied⟩
  · exact ⟨[], by rw [hasks.course.copies, List.append_nil], nofun⟩
  · refine ⟨_, hcopied.copies, ?_⟩
    intro copy hcopy
    split at hcopy
    · rename_i hstarted
      obtain rfl := List.mem_singleton.mp hcopy
      exact hrun.forward.dirs_of_started hstarted
    · cases hcopy

end

/-- Preparing a directory on a disk leaves the working directory. -/
theorem Prepared.working {d next : Disk} {dir path : FilePath} (h : Prepared d dir path next) :
    next.working = d.working := by
  obtain ⟨-, created, hcreate, hclear⟩ := h
  have hcreated := Disk.working_createDir path d
  have hcleared := Disk.working_clearDir path created
  have hrun : ((Disk.createDir path).run.run d).2 = created := congrArg Prod.snd hcreate
  have hrun' : ((Disk.clearDir path).run.run created).2 = next := congrArg Prod.snd hclear
  rw [hrun] at hcreated
  rw [hrun'] at hcleared
  exact hcleared.trans hcreated

section

variable {σ : Type} [FileStore σ]

/-- The two directories of an execution, from the root on. -/
def AbsoluteDirs (files : σ) (e : Execution) (dirs : List FilePath) : Prop :=
  ∃ dataDir reportDir, FileStore.absolute files e.dataDir = .ok dataDir ∧
    FileStore.absolute files e.reportDir = .ok reportDir ∧ dirs = [dataDir, reportDir]

/-- The two directories of an execution are not refused when they are copied. -/
def CopiesDirs (files : σ) (destination : FilePath) (e : Execution) : Prop :=
  ∃ dirs targets, AbsoluteDirs files e dirs ∧ copyTargets destination [] dirs = .ok targets

variable (σ) in
/-- What case runs with these settings hand over are the two directories from the root on. -/
def HandsAbsoluteDirs (settings : Settings) : Prop :=
  ∀ (copyBack : CopyBack σ) (project : ProjectRef) (s : Surroundings) (w w' : World σ)
    (r : Except Failure Bool),
    (runCase copyBack project settings.caseRequest).outcome s w = some (r, w') →
    ∃ handed, w'.copies = w.copies ++ handed ∧
      ∀ copy ∈ handed, AbsoluteDirs w.files settings.execution copy.dirs

end

theorem handsAbsoluteDirs_tree (settings : Settings) : HandsAbsoluteDirs Tree settings := by
  intro copyBack project s w w' r h
  obtain ⟨handed, hcopies, hdirs⟩ := runCase_hands h
  refine ⟨handed, hcopies, ?_⟩
  intro copy hcopy
  obtain ⟨dataDir, reportDir, ⟨files₁, files₂, hdata, hreport⟩, heq⟩ := hdirs copy hcopy
  exact ⟨dataDir, reportDir, hdata.absolute, hreport.absolute, heq⟩

theorem handsAbsoluteDirs_disk (settings : Settings) : HandsAbsoluteDirs Disk settings := by
  intro copyBack project s w w' r h
  obtain ⟨handed, hcopies, hdirs⟩ := runCase_hands h
  refine ⟨handed, hcopies, ?_⟩
  intro copy hcopy
  obtain ⟨dataDir, reportDir, ⟨files₁, files₂, hdata, hreport⟩, heq⟩ := hdirs copy hcopy
  refine ⟨dataDir, reportDir, hdata.absolute, ?_, heq⟩
  exact (Disk.absolute_congr hdata.working _).symm.trans hreport.absolute

/-! ### When they are copied -/

/-- The final names of the two directories differ, as seen from a directory with the final name
`working`. -/
def NamesDiffer (working : Option Segment) (e : Execution) : Prop :=
  ∃ name other, e.dataDir.nameFrom working = some name ∧
    e.reportDir.nameFrom working = some other ∧ name ≠ other

section

variable {σ : Type} [FileStore σ] {files : σ} {destination dataDir reportDir : FilePath}
  {working : Option Segment} {e : Execution}

/-- Two directories with absolute paths are copied if their final names differ. -/
theorem copiesDirs_iff (hdata : FileStore.absolute files e.dataDir = .ok dataDir)
    (hreport : FileStore.absolute files e.reportDir = .ok reportDir)
    (hdataName : dataDir.fileName = e.dataDir.nameFrom working)
    (hreportName : reportDir.fileName = e.reportDir.nameFrom working) :
    CopiesDirs files destination e ↔ NamesDiffer working e := by
  constructor
  · rintro ⟨dirs, targets, ⟨dataDir', reportDir', hdata', hreport', rfl⟩, htargets⟩
    cases hdata.symm.trans hdata'
    cases hreport.symm.trans hreport'
    obtain ⟨name, other, hname, hother, hdiffer, -⟩ := copyTargets_pair.mp htargets
    exact ⟨name, other, hdataName ▸ hname, hreportName ▸ hother, hdiffer⟩
  · rintro ⟨name, other, hname, hother, hdiffer⟩
    refine ⟨[dataDir, reportDir], [destination.child name, destination.child other],
      ⟨dataDir, reportDir, hdata, hreport, rfl⟩, copyTargets_pair.mpr ?_⟩
    exact ⟨name, other, hdataName.trans hname, hreportName.trans hother, hdiffer, rfl⟩

end

/-- With an accepted configuration that has artifacts copied, the directories that a case run
hands over are the two configured ones from the root on. They are not refused if and only if
their final names differ as seen from the working directory. That is so wherever this is if both
are configured with a final name. -/
theorem copyTargets_of_check {env : Config.Environment} {source : Source} {settings : Settings}
    {destination : FilePath} (hcheck : source.check env = .ok settings)
    (hartifacts : settings.execution.artifactDir = some destination) :
    let e := settings.execution
    HandsAbsoluteDirs Tree settings ∧ HandsAbsoluteDirs Disk settings ∧
    (∀ t : Tree, CopiesDirs t destination e ↔ NamesDiffer Tree.home.fileName e) ∧
    (∀ d : Disk, d.ProperWorking →
      (CopiesDirs d destination e ↔ NamesDiffer d.working.getLast? e)) ∧
    (e.dataDir.fileName ≠ none → e.reportDir.fileName ≠ none →
      ∀ working, NamesDiffer working e) := by
  intro e
  have haccepted : e.Accepted := (source.execution_of_check hcheck).2
  refine ⟨handsAbsoluteDirs_tree settings, handsAbsoluteDirs_disk settings, ?_, ?_, ?_⟩
  · intro t
    exact copiesDirs_iff rfl rfl (Tree.fileName_absolute e.dataDir)
      (Tree.fileName_absolute e.reportDir)
  · intro d hworking
    obtain ⟨dataDir, hdata⟩ := d.exists_absolute haccepted.dataDir
    obtain ⟨reportDir, hreport⟩ := d.exists_absolute haccepted.reportDir
    exact copiesDirs_iff hdata hreport (Disk.fileName_absolute hworking hdata)
      (Disk.fileName_absolute hworking hreport)
  · intro hdata hreport working
    obtain ⟨name, hname⟩ := Option.ne_none_iff_exists'.mp hdata
    obtain ⟨other, hother⟩ := Option.ne_none_iff_exists'.mp hreport
    refine ⟨name, other, FilePath.nameFrom_of_fileName hname,
      FilePath.nameFrom_of_fileName hother, ?_⟩
    have hdiffer := haccepted.finalNames (by rw [show e.artifactDir = _ from hartifacts]; rfl)
    rwa [hname, hother, ne_eq, Option.some.injEq] at hdiffer

/-- A configuration with the given directories that has artifacts copied. -/
def keepingSource (dataDir reportDir : FilePath) : Source :=
  { sourceWith dataDir reportDir with
    execution := { (sourceWith dataDir reportDir).execution with artifactDir := some "/art" } }

/-- The settings of this configuration. -/
def keepingSettings (dataDir reportDir : FilePath) : Settings :=
  { settingsWith dataDir reportDir with execution := (keepingSource dataDir reportDir).execution }

theorem copyTargets_of_check_small :
    (keepingSource "/d" "/r").check [] = .ok (keepingSettings "/d" "/r") ∧
    CopiesDirs Tree.empty "/art" (keepingSettings "/d" "/r").execution := by
  have hcheck : (keepingSource "/d" "/r").check [] = .ok (keepingSettings "/d" "/r") := rfl
  obtain ⟨-, -, hiff, -, hnames⟩ := copyTargets_of_check hcheck rfl
  exact ⟨hcheck, (hiff Tree.empty).mpr (hnames (by decide +kernel) (by decide +kernel) _)⟩

/-- Accepted configurations whose artifacts are refused: the working directory has the final name
of the other directory, or a directory ends in two dots and has no final name. -/
theorem refused_after_check :
    ((keepingSource "." "/r/work").check [] = .ok (keepingSettings "." "/r/work") ∧
      AbsoluteDirs Tree.empty (keepingSettings "." "/r/work").execution ["/work/.", "/r/work"] ∧
      copyTargets "/art" [] ["/work/.", "/r/work"] =
        .error (.sameName "/r/work" ['w', 'o', 'r', 'k'])) ∧
    (keepingSource "/d/.." "/r").check [] = .ok (keepingSettings "/d/.." "/r") ∧
      AbsoluteDirs Tree.empty (keepingSettings "/d/.." "/r").execution ["/d/..", "/r"] ∧
      copyTargets "/art" [] ["/d/..", "/r"] = .error (.noName "/d/..") := by
  refine ⟨⟨rfl, ⟨_, _, rfl, rfl, ?_⟩, ?_⟩, rfl, ⟨_, _, rfl, rfl, ?_⟩, ?_⟩
  all_goals decide +kernel

end CaseRunner.Isolation
