import CaseRunner.Files.CopyBack
import CaseRunner.Proofs.Files.Activity
import CaseRunner.Proofs.Files.Disk
import CaseRunner.Proofs.Files.Tree

/-!
# `CaseRunner.Proofs.Files.CopyBack`: what copying directories leaves as it was

Copying directories back writes below their targets only, wherever it ends, and whatever the
directories hold by the time they are reached. The argument is the same for all stores of files
(`keeps_into`): the entries of a directory are below it, and to copy one writes to the same
place below the target. `into_keeps` puts it together for both stores.

The destination is not compared with the directories, so a target can be at a directory that is
copied or lie in one. Then files that are to be copied are themselves written to
(`into_overwrites`).
-/

set_option autoImplicit false

namespace CaseRunner.Files

open FileAction

/-! ### Going through the directories -/

section

variable {σ : Type} [FileStore σ] {I : σ → Prop} {Below : FilePath → Prop}
  {root target destination : FilePath}

/-- Copying from `root` to `target` leaves `I` true of the files, with `Below` true of the paths
that are met on the way. -/
structure CopyKeeps (I : σ → Prop) (Below : FilePath → Prop) (root target : FilePath) :
    Prop where
  /-- What is met in a directory. -/
  list : ∀ files dir entries, I files → Below dir → FileStore.list files dir = .ok entries →
    ∀ entry ∈ entries, Below entry
  /-- What becomes of a file that is met. -/
  copy : ∀ files entry relative, I files → Below entry → entry.relativeTo? root = some relative →
    I ((FileStore.copyFile entry (target.join relative)).run.run files).2

theorem keeps_copyEntries (h : CopyKeeps I Below root target)
    {copyDir : FilePath → FileAction σ Nat} (htree : ∀ dir, Below dir → Keeps I (copyDir dir))
    {entries : List FilePath} (hentries : ∀ entry ∈ entries, Below entry) :
    Keeps I (copyEntries copyDir root target entries) := by
  induction entries with
  | nil => exact keeps_pure 0
  | cons entry rest ih =>
      have hentry := hentries entry List.mem_cons_self
      have hrest := ih fun other hother => hentries other (List.mem_cons_of_mem entry hother)
      -- What follows an entry, however many files were copied for it.
      have hcount (copied : Nat) : Keeps I (do
          return copied + (← copyEntries copyDir root target rest)) :=
        hrest.bind fun more => keeps_pure _
      rw [copyEntries]
      split
      case h_1 relative hrelative =>
        refine (keeps_ask _).bind fun isDir => ?_
        cases isDir with
        | true => exact (htree entry hentry).bind hcount
        | false =>
            refine Keeps.bind (keeps_change fun files hfiles => ?_) fun _ => hcount 1
            exact h.copy files entry relative hfiles hentry hrelative
      case h_2 => exact keeps_throw _

/-- By induction on the depth: the entries of a directory are one level further down. -/
theorem keeps_copyTree (h : CopyKeeps I Below root target) (depth : Nat) {dir : FilePath}
    (hdir : Below dir) : Keeps I (copyTree depth root dir target) := by
  induction depth generalizing dir with
  | zero => exact keeps_unfinished
  | succ depth ih =>
      rw [copyTree]
      refine keeps_tryAsk_bind fun files entries hfiles hlist => ?_
      exact keeps_copyEntries h (fun _ => ih) (h.list files dir entries hfiles hdir hlist)

theorem keeps_copyAll (depth : Nat) {pairs : List (FilePath × FilePath)}
    (h : ∀ pair ∈ pairs, ∃ Below, Below pair.1 ∧ CopyKeeps I Below pair.1 pair.2) :
    Keeps I (copyAll depth pairs) := by
  induction pairs with
  | nil => exact keeps_pure ()
  | cons pair rest ih =>
      obtain ⟨Below, hbelow, hcopy⟩ := h pair List.mem_cons_self
      have hrest := ih fun other hother => h other (List.mem_cons_of_mem pair hother)
      rw [copyAll]
      refine (keeps_ask _).bind fun isDir => ?_
      cases isDir with
      | true =>
          refine (keeps_copyTree hcopy depth hbelow).bind fun copied => ?_
          exact (keeps_note ..).bind fun _ => hrest
      | false => exact (keeps_note ..).bind fun _ => hrest

/-- The target of a directory has its final name and is directly in the destination. -/
theorem child_of_copyTargets {taken : List Segment} {dirs targets : List FilePath}
    (h : copyTargets destination taken dirs = .ok targets) :
    ∀ pair ∈ dirs.zip targets, pair.1 ∈ dirs ∧
      ∃ name, pair.1.fileName = some name ∧ pair.2 = destination.child name := by
  induction dirs generalizing taken targets with
  | nil => simp
  | cons dir rest ih =>
      rw [copyTargets] at h
      split at h
      · cases h
      · rename_i name hname
        split at h
        · cases h
        · cases hrest : copyTargets destination (name :: taken) rest with
          | error refusal =>
              rw [hrest] at h
              cases h
          | ok others =>
              rw [hrest] at h
              cases h
              intro pair hpair
              rcases List.mem_cons.mp hpair with rfl | hpair
              · exact ⟨List.mem_cons_self, name, hname, rfl⟩
              · obtain ⟨hmem, hchild⟩ := ih hrest pair hpair
                exact ⟨List.mem_cons_of_mem dir hmem, hchild⟩

/-- What copying each directory to its target keeps, copying all of them keeps. -/
theorem keeps_into (depth : Nat) {dirs : List FilePath}
    (h : ∀ dir ∈ dirs, ∀ name, dir.fileName = some name →
      ∃ Below, Below dir ∧ CopyKeeps I Below dir (destination.child name)) :
    Keeps I (CopyBack.into depth destination dirs) := by
  unfold CopyBack.into
  split
  · exact keeps_throw _
  · rename_i targets htargets
    refine keeps_copyAll depth fun pair hpair => ?_
    obtain ⟨hmem, name, hname, htarget⟩ := child_of_copyTargets htargets pair hpair
    rw [htarget]
    exact h pair.1 hmem name hname

end

variable {dir target : FilePath}

/-- In memory a copy is written below the target, and over the file itself if the target is the
directory that is copied. -/
theorem Tree.copyKeeps {path : FilePath} {contents : Bytes} (hdir : dir.components ≠ [])
    (htarget : target.components ≠ [])
    (hpath : path.isAtOrBelow target = false ∨ target.same dir = true) :
    CopyKeeps (fun t : Tree => t.find? path = some (.file contents)) (fun _ => True) dir
      target where
  list _ _ _ _ _ _ _ _ := trivial
  copy t entry relative ht _ hrelative := by
    obtain ⟨hrooted, hentry⟩ := FilePath.relativeTo?_steps hdir hrelative
    have hcomponents := FilePath.components_join (FilePath.isEmpty_of_components htarget) hrooted
    have hother : (target.join relative).same path = false ∨
        (target.join relative).same entry = true := by
      rcases hpath with hpath | hsame
      -- The copy goes below the target, where the path is not.
      · left
        rw [← Bool.not_eq_true, FilePath.same_iff, hcomponents]
        intro heq
        rw [← Bool.not_eq_true, FilePath.isAtOrBelow_iff] at hpath
        exact hpath (heq ▸ List.prefix_append _ _)
      -- The copy goes to where the file is.
      · right
        rw [FilePath.same_iff, hcomponents, hentry, FilePath.same_iff.mp hsame]
    show ((Tree.change (·.copyFile entry (target.join relative))).run.run t).2.find? path = _
    cases hcopy : t.copyFile entry (target.join relative) with
    | error fault =>
        rw [Tree.run_change_error hcopy]
        exact ht
    | ok next =>
        rw [Tree.run_change_ok hcopy]
        exact Tree.find?_copyFile hother ht hcopy

/-- On a disk a copy is written below the place of the target. -/
theorem Disk.copyKeeps {d : Disk} {place : Place} {contents : Bytes} (hdir : dir.components ≠ [])
    (htarget : target.components ≠ []) (hplace : ¬d.placeOf target <+: place) :
    CopyKeeps
      (fun next : Disk => next.Proper ∧ next.working = d.working ∧
        next.find? place = some (some contents))
      (fun path => ∃ names : List Segment,
        path.components = dir.components ++ names.map Component.name) dir target where
  list next path entries hnext hpath hlist entry hentry := by
    obtain ⟨names, hnames⟩ := hpath
    obtain ⟨name, rfl, hname⟩ := Disk.list_below hnext.1 hlist entry hentry
    have hempty : path.isEmpty = false := FilePath.isEmpty_of_components (by simp [hnames, hdir])
    refine ⟨names ++ [name], ?_⟩
    rw [FilePath.components_child hempty hname, hnames]
    simp
  copy next entry relative hnext hentry hrelative := by
    obtain ⟨names, hnames⟩ := hentry
    obtain ⟨hproper, hworking, hfind⟩ := hnext
    obtain ⟨hrooted, hsteps⟩ := FilePath.relativeTo?_steps hdir hrelative
    rw [hnames] at hsteps
    -- The way from the directory on has names only, so it leads down from the target as well.
    have hchanged := Disk.copyFile_changedAt entry (target.join relative) next
    rw [Disk.placeOf_congr hworking, Disk.placeOf_join (FilePath.isEmpty_of_components htarget)
      hrooted (List.append_cancel_left hsteps).symm] at hchanged
    have hother : place ≠ d.placeOf target ++ names := fun heq =>
      hplace (heq ▸ List.prefix_append _ _)
    exact ⟨hchanged.proper hproper, hchanged.working.trans hworking,
      hchanged.kept place hother _ hfind⟩

/-! ### What stays -/

/-- No copy is written to the path: it is not at or below a target, unless that target is the
directory itself, whose files are copied to themselves then. -/
def Tree.Spared (destination : FilePath) (dirs : List FilePath) (path : FilePath) : Prop :=
  ∀ dir ∈ dirs, ∀ name, dir.fileName = some name →
    path.isAtOrBelow (destination.child name) = false ∨ (destination.child name).same dir = true

/-- No copy is written to the place: it is not at or below the place of a target. -/
def Disk.Spared (d : Disk) (destination : FilePath) (dirs : List FilePath) (place : Place) : Prop :=
  ∀ dir ∈ dirs, ∀ name, dir.fileName = some name →
    ¬d.placeOf (destination.child name) <+: place

/-- A directory that has a final name, and its target, have steps. -/
theorem components_ne_nil_of_fileName {name : Segment} (h : dir.fileName = some name)
    (destination : FilePath) :
    dir.components ≠ [] ∧ (destination.child name).components ≠ [] := by
  refine ⟨fun hnil => ?_, destination.components_child_ne_nil (FilePath.stepOf_fileName h)⟩
  rw [FilePath.fileName, hnil] at h
  cases h

/-- Wherever copying directories back ends, in success or in failure, every file that is not at
or below a target is there with the same bytes. In memory that is so too for a directory that
is its own target. On a disk the names of entries are such that entries can have them. -/
theorem into_keeps (depth : Nat) (destination : FilePath) (dirs : List FilePath) :
    (∀ (ws ws' : Workspace Tree) (r : Except Failure Unit),
      (CopyBack.into depth destination dirs).run.run ws = some (r, ws') →
      ∀ (path : FilePath) (contents : Bytes), Tree.Spared destination dirs path →
        ws.files.find? path = some (.file contents) →
        ws'.files.find? path = some (.file contents)) ∧
    (∀ (ws ws' : Workspace Disk) (r : Except Failure Unit), ws.files.Proper →
      (CopyBack.into depth destination dirs).run.run ws = some (r, ws') →
      ∀ (place : Place) (contents : Bytes), ws.files.Spared destination dirs place →
        ws.files.find? place = some (some contents) →
        ws'.files.find? place = some (some contents)) := by
  constructor
  · intro ws ws' r hrun path contents hspared hfind
    have hkeeps : Keeps (fun t : Tree => t.find? path = some (.file contents))
        (CopyBack.into depth destination dirs) := by
      refine keeps_into depth fun dir hdir name hname => ?_
      obtain ⟨hcomponents, htarget⟩ := components_ne_nil_of_fileName hname destination
      exact ⟨_, trivial, Tree.copyKeeps hcomponents htarget (hspared dir hdir name hname)⟩
    exact hkeeps hfind hrun
  · intro ws ws' r hproper hrun place contents hspared hfind
    have hkeeps : Keeps (fun d : Disk => d.Proper ∧ d.working = ws.files.working ∧
        d.find? place = some (some contents)) (CopyBack.into depth destination dirs) := by
      refine keeps_into depth fun dir hdir name hname => ?_
      obtain ⟨hcomponents, htarget⟩ := components_ne_nil_of_fileName hname destination
      exact ⟨_, ⟨[], by simp⟩,
        Disk.copyKeeps hcomponents htarget (hspared dir hdir name hname)⟩
    exact (hkeeps ⟨hproper, rfl, hfind⟩ hrun).2.2

/-- The files after directories were copied back. -/
def filesAfter {σ : Type} [FileStore σ] (files : σ) (destination : FilePath)
    (dirs : List FilePath) : Option σ :=
  ((CopyBack.into 4 destination dirs).run.run ⟨files, []⟩).map fun ended => ended.2.files

/-- A file in a directory in memory, and another one in a directory of the same name in it. -/
def nestedTree : Tree := (Tree.empty.addFile "/s/f" [1]).addFile "/s/s/f" [2]

/-- A file in the directory `o/s` of a disk. -/
def nestedDisk : Disk where
  entries := [([['o']], none), ([['o'], ['s']], none), ([['o'], ['s'], ['f']], some [1])]
  working := []

theorem run_of_filesAfter {σ : Type} [FileStore σ] {files : σ} {destination : FilePath}
    {dirs : List FilePath} (h : (filesAfter files destination dirs).isSome = true) :
    ∃ r ws', (CopyBack.into 4 destination dirs).run.run ⟨files, []⟩ = some (r, ws') ∧
      filesAfter files destination dirs = some ws'.files := by
  obtain ⟨⟨r, ws'⟩, hrun⟩ := Option.isSome_iff_exists.mp ((Option.isSome_map).symm.trans h)
  refine ⟨r, ws', hrun, ?_⟩
  rw [filesAfter, hrun]
  rfl

theorem into_keeps_nested :
    (filesAfter nestedTree "/d" ["/s"]).bind (·.find? "/s/s/f") = some (.file [2]) ∧
    (filesAfter nestedDisk "d" ["o/s"]).bind (·.find? [['o'], ['s'], ['f']]) =
      some (some [1]) := by
  constructor
  · have hends : (filesAfter nestedTree "/d" ["/s"]).isSome = true := by decide +kernel
    obtain ⟨r, ws', hrun, hafter⟩ := run_of_filesAfter hends
    have hspared : Tree.Spared "/d" ["/s"] "/s/s/f" := by
      intro dir hdir name hname
      cases List.mem_singleton.mp hdir
      have hs : FilePath.fileName "/s" = some ['s'] := by decide +kernel
      cases hs.symm.trans hname
      exact .inl (by decide +kernel)
    rw [hafter]
    exact (into_keeps 4 "/d" ["/s"]).1 _ _ _ hrun "/s/s/f" [2] hspared (by decide +kernel)
  · have hends : (filesAfter nestedDisk "d" ["o/s"]).isSome = true := by decide +kernel
    obtain ⟨r, ws', hrun, hafter⟩ := run_of_filesAfter hends
    have hproper : nestedDisk.Proper := by
      unfold Disk.Proper
      decide +kernel
    have hspared : nestedDisk.Spared "d" ["o/s"] [['o'], ['s'], ['f']] := by
      intro dir hdir name hname
      cases List.mem_singleton.mp hdir
      have hs : FilePath.fileName "o/s" = some ['s'] := by decide +kernel
      cases hs.symm.trans hname
      show ¬_ <+: _
      decide +kernel
    rw [hafter]
    exact (into_keeps 4 "d" ["o/s"]).2 _ _ _ hproper hrun [['o'], ['s'], ['f']] [1] hspared rfl

/-- If the destination is the directory that is copied, a file in it is replaced by another one.
On a disk, if the destination is the directory around it, the file is copied to itself and is
empty afterwards. -/
theorem into_overwrites :
    nestedTree.find? "/s/s/f" = some (.file [2]) ∧
    (filesAfter nestedTree "/s" ["/s"]).bind (·.find? "/s/s/f") = some (.file [1]) ∧
    nestedDisk.find? [['o'], ['s'], ['f']] = some (some [1]) ∧
    (filesAfter nestedDisk "o" ["o/s"]).bind (·.find? [['o'], ['s'], ['f']]) =
      some (some []) := by
  decide +kernel

end CaseRunner.Files
