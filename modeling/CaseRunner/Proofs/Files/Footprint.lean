import CaseRunner.Proofs.Files.CopyBack

/-!
# `CaseRunner.Proofs.Files.Footprint`: where files are altered

`Tree.AltersOnly` says of two trees that one has become of the other by changes at some places
and below them: everywhere else each file and each directory has stayed, and no file has come.
Directories may come anywhere, since a directory is created with all those it is in.

What counts is the way that a path describes and not its spelling, so a directory whose name
only begins like that of a place is not below it.
-/

set_option autoImplicit false

namespace CaseRunner.Files

open FileAction

variable {places others : List FilePath} {before t after next : Tree} {path q : FilePath}

/-- The path is neither at one of the places nor below one. -/
def Outside (places : List FilePath) (q : FilePath) : Prop :=
  ∀ place ∈ places, q.isAtOrBelow place = false

/-- A place that is not among those of a longer list is not among those of a shorter one. -/
theorem Outside.mono (h : Outside others q) (hsubset : places ⊆ others) : Outside places q :=
  fun place hplace => h place (hsubset hplace)

namespace Tree

/-- Outside the places what there was is still there, and nothing has come but directories. -/
def AltersOnly (places : List FilePath) (before after : Tree) : Prop :=
  ∀ q, Outside places q → after.find? q = before.find? q ∨
    before.find? q = none ∧ after.find? q = some .dir

namespace AltersOnly

theorem refl (places : List FilePath) (t : Tree) : AltersOnly places t t := fun _ _ => .inl rfl

theorem trans (h : AltersOnly places before t) (hnext : AltersOnly places t after) :
    AltersOnly places before after := by
  intro q hq
  rcases hnext q hq with hsame | ⟨hnone, hdir⟩
  · rw [hsame]
    exact h q hq
  · rcases h q hq with hbefore | ⟨-, hdir'⟩
    · exact .inr ⟨hbefore ▸ hnone, hdir⟩
    · cases hnone.symm.trans hdir'

theorem mono (h : AltersOnly places before after) (hsubset : places ⊆ others) :
    AltersOnly others before after := fun q hq => h q (hq.mono hsubset)

/-- Each file outside the places is there before if and only if it is there afterwards. -/
theorem file_iff (h : AltersOnly places before after) (hq : Outside places q) (contents : Bytes) :
    after.find? q = some (.file contents) ↔ before.find? q = some (.file contents) := by
  rcases h q hq with hsame | ⟨hnone, hdir⟩
  · rw [hsame]
  · simp [hnone, hdir]

/-- Each directory outside the places stays. -/
theorem dir (h : AltersOnly places before after) (hq : Outside places q)
    (hdir : before.find? q = some .dir) : after.find? q = some .dir := by
  rcases h q hq with hsame | ⟨hnone, -⟩
  · exact hsame.trans hdir
  · cases hnone.symm.trans hdir

end AltersOnly

/-! ### Changes -/

/-- Creating a directory alters nothing that is there. -/
theorem altersOnly_createDir (h : t.createDir path = .ok next) : AltersOnly places t next := by
  intro q _
  rw [find?_createDir h]
  cases hfind : t.find? q with
  | some node => exact .inl rfl
  | none =>
      rw [Option.none_or]
      split
      · exact .inr ⟨rfl, rfl⟩
      · exact .inl rfl

/-- Clearing a directory removes what is below it. -/
theorem altersOnly_clearDir (h : t.clearDir path = .ok next) (hpath : path ∈ places) :
    AltersOnly places t next := by
  intro q hq
  rw [(find?_clearDir h).2, hq path hpath, if_neg (by simp)]
  exact .inl rfl

/-- A file that is put below a place alters nothing elsewhere. -/
theorem altersOnly_addFile (t : Tree) {place : FilePath} (hplace : place ∈ places)
    (hpath : path.isAtOrBelow place = true) (contents : Bytes) :
    AltersOnly places t (t.addFile path contents) := by
  intro q hq
  rcases t.find?_addFile_cases path contents q with ⟨hsame, -⟩ | hsame | ⟨hnone, hdir, -⟩
  · rw [FilePath.isAtOrBelow_congr hsame, hq place hplace] at hpath
    cases hpath
  · exact .inl hsame
  · exact .inr ⟨hnone, hdir⟩

theorem altersOnly_copyFile {source place : FilePath} (h : t.copyFile source path = .ok next)
    (hplace : place ∈ places) (hpath : path.isAtOrBelow place = true) :
    AltersOnly places t next := by
  obtain ⟨contents, -, rfl⟩ := copyFile_cases h
  exact t.altersOnly_addFile hplace hpath contents

/-- A change that may fail alters what it does if it goes well. -/
theorem AltersOnly.change {step : Tree → Except FileFault Tree}
    (h : AltersOnly places before t) (hstep : ∀ next, step t = .ok next → AltersOnly places t next) :
    AltersOnly places before ((Tree.change step).run.run t).2 := by
  cases hrun : step t with
  | error fault =>
      rw [run_change_error hrun]
      exact h
  | ok next =>
      rw [run_change_ok hrun]
      exact h.trans (hstep next hrun)

end Tree

/-! ### Copying directories back -/

/-- The places that directories are copied to: each to its final name in the destination. -/
def copyPlaces (destination : FilePath) (dirs : List FilePath) : List FilePath :=
  dirs.filterMap fun dir => dir.fileName.map destination.child

/-- Copying directories back alters only what is below their targets, wherever it ends. -/
theorem keeps_altersOnly_into (before : Tree) (depth : Nat) (destination : FilePath)
    (dirs : List FilePath) :
    Keeps (Tree.AltersOnly (copyPlaces destination dirs) before)
      (CopyBack.into depth destination dirs) := by
  refine keeps_into depth fun dir hdir name hname => ⟨fun _ => True, trivial, ?_⟩
  obtain ⟨hroot, htarget⟩ := components_ne_nil_of_fileName hname destination
  have hplace : destination.child name ∈ copyPlaces destination dirs :=
    List.mem_filterMap.mpr ⟨dir, hdir, by rw [hname]; rfl⟩
  refine ⟨fun _ _ _ _ _ _ _ _ => trivial, fun t entry relative ht _ hrelative => ?_⟩
  obtain ⟨hrooted, -⟩ := FilePath.relativeTo?_steps hroot hrelative
  refine ht.change fun next hcopy => Tree.altersOnly_copyFile hcopy hplace ?_
  rw [FilePath.isAtOrBelow_iff,
    FilePath.components_join (FilePath.isEmpty_of_components htarget) hrooted]
  exact List.prefix_append _ _

end CaseRunner.Files
