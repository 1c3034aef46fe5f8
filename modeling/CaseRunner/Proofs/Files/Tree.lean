import CaseRunner.Files.Tree
import CaseRunner.Proofs.Files.Path

/-!
# `CaseRunner.Proofs.Files.Tree`: what a change of a tree does at each path

Whatever a tree is asked depends on the way that a path describes, not on its spelling. So a
change is told by what there is at a path afterwards (`find?`), for all paths at once:

* `find?_put`: putting something at a path changes what is there, and nothing else.
* `find?_addDirs`: directories are added only where there was nothing.
* `find?_addFile_of_ne`: a file comes with directories at the paths above it.
* `find?_clearDir`: what is below a path goes.
* `find?_copyFile`: a file is copied to one path, and all other files stay.

What is in a directory is one step below it (`isIn_iff`, `mem_of_list`), and it comes in the order of
the tree (`list_inOrder`).
-/

set_option autoImplicit false

namespace CaseRunner

namespace Files.Tree

variable {t next : Tree} {path q : FilePath}

/-! ### Entries -/

theorem lookup_cons (entry : FilePath × Node) (rest : List (FilePath × Node)) (q : FilePath) :
    lookup q (entry :: rest) = if entry.1.same q then some entry.2 else lookup q rest := by
  rw [lookup, List.find?_cons]
  cases entry.1.same q <;> rfl

theorem lookup_insert (path : FilePath) (node : Node) (nodes : List (FilePath × Node))
    (q : FilePath) :
    lookup q (insert path node nodes) = if path.same q then some node else lookup q nodes := by
  induction nodes with
  | nil => rw [insert, lookup_cons]
  | cons entry rest ih =>
      rw [insert]
      split
      · rename_i hsame
        rw [lookup_cons, lookup_cons, FilePath.same_congr hsame q]
        split <;> rfl
      · rename_i hother
        split
        · rw [lookup_cons]
        · rw [lookup_cons, lookup_cons, ih]
          -- The entry and the new path are not the same, so `q` is one of them at most.
          by_cases hq : path.same q = true
          · rw [FilePath.same_congr_right hq] at hother
            rw [if_neg hother, if_pos hq, if_pos hq]
          · rw [if_neg hq, if_neg hq]

/-- Entries that stay or go by the way that their paths describe. -/
theorem lookup_filter (keep : FilePath → Bool) (nodes : List (FilePath × Node)) (q : FilePath)
    (hkeep : ∀ p : FilePath, p.same q = true → keep p = keep q) :
    lookup q (nodes.filter fun entry => keep entry.1) =
      if keep q then lookup q nodes else none := by
  induction nodes with
  | nil => simp [lookup]
  | cons entry rest ih =>
      rw [List.filter_cons, lookup_cons]
      by_cases hq : entry.1.same q = true
      · rw [hkeep _ hq, if_pos hq]
        split
        · rw [lookup_cons, if_pos hq]
        · rename_i hgone
          rw [ih, if_neg hgone]
      · rw [if_neg hq, ← ih]
        split
        · rw [lookup_cons, if_neg hq]
        · rfl

/-! ### Changes -/

theorem run_change_ok {step : Tree → Except FileFault Tree} (h : step t = .ok next) :
    (change step).run.run t = (.ok (), next) := by
  show change step t = _
  rw [change, h]

/-- A change that fails leaves the tree as it was. -/
theorem run_change_error {step : Tree → Except FileFault Tree} {fault : FileFault}
    (h : step t = .error fault) : (change step).run.run t = (.error fault, t) := by
  show change step t = _
  rw [change, h]

/-- Paths of the same way have the same. -/
theorem find?_congr (h : path.same q = true) (t : Tree) : t.find? path = t.find? q := by
  rw [find?, find?, lookup, lookup]
  congr 2
  funext entry
  exact FilePath.same_congr_right h entry.1

theorem find?_of_components {node : Node} (h : t.find? q = some node)
    (hq : path.components = q.components) : t.find? path = some node :=
  (find?_congr (FilePath.same_iff.mpr hq) t).trans h

theorem find?_put (t : Tree) (path : FilePath) (node : Node) (q : FilePath) :
    (t.put path node).find? q = if path.same q then some node else t.find? q :=
  lookup_insert path node t.nodes q

theorem find?_addDirAt (t : Tree) (path q : FilePath) :
    (t.addDirAt path).find? q = (t.find? q).or (if path.same q then some .dir else none) := by
  unfold addDirAt
  by_cases hq : path.same q = true
  · rw [if_pos hq]
    split
    · rename_i node hsome
      rw [← find?_congr hq, hsome]
      rfl
    · rename_i hnone
      rw [find?_put, if_pos hq, ← find?_congr hq, hnone]
      rfl
  · rw [if_neg hq, Option.or_none]
    split
    · rfl
    · rw [find?_put, if_neg hq]

theorem find?_foldl_addDirAt (paths : List FilePath) (t : Tree) (q : FilePath) :
    (paths.foldl addDirAt t).find? q =
      (t.find? q).or (if paths.any (·.same q) then some .dir else none) := by
  induction paths generalizing t with
  | nil => simp
  | cons path paths ih =>
      rw [List.foldl_cons, ih, find?_addDirAt, Option.or_assoc, List.any_cons]
      cases path.same q <;> cases paths.any (·.same q) <;> rfl

/-- Directories are added where there is nothing yet, and nothing else changes. -/
theorem find?_addDirs (t : Tree) (path q : FilePath) : (t.addDirs path).find? q =
    (t.find? q).or (if (lineage path).any (·.same q) then some .dir else none) :=
  find?_foldl_addDirAt (lineage path) t q

/-- Going up from a path leads to every path above it. -/
theorem exists_mem_lineage (hq : q.components ≠ []) (hpath : q.components <+: path.components) :
    ∃ above ∈ lineage path, above.same q = true := by
  have hne {p : FilePath} (h : q.components <+: p.components) : p.isEmpty = false :=
    FilePath.isEmpty_of_components fun hnil => hq (List.prefix_nil.mp (hnil ▸ h))
  unfold lineage
  fun_induction FilePath.ancestors path with
  | case1 p hparent =>
      have hlast := FilePath.eq_of_parent?_eq_none hparent hq hpath
      exact ⟨p, by simp [hne hpath], FilePath.same_iff.mpr hlast.symm⟩
  | case2 p parent hparent ih =>
      obtain ⟨step, hstep⟩ := FilePath.components_parent hparent
      rw [List.takeWhile_cons_of_pos (by simp [hne hpath])]
      rcases List.prefix_concat_iff.mp (hstep ▸ hpath) with heq | hbegins
      · exact ⟨p, List.mem_cons_self, FilePath.same_iff.mpr (hstep.trans heq.symm)⟩
      · obtain ⟨above, habove, hsame⟩ := ih hbegins
        exact ⟨above, List.mem_cons_of_mem p habove, hsame⟩

theorem any_lineage_iff (hq : q.components ≠ []) :
    (lineage path).any (·.same q) = true ↔ q.components <+: path.components := by
  rw [List.any_eq_true]
  constructor
  · rintro ⟨above, habove, hsame⟩
    rw [← FilePath.same_iff.mp hsame]
    exact FilePath.components_prefix_of_mem_ancestors (List.takeWhile_subset _ habove)
  · intro hbegins
    exact exists_mem_lineage hq hbegins

theorem find?_addDirs_of_ne (hq : q.components ≠ []) (t : Tree) (path : FilePath) :
    (t.addDirs path).find? q =
      (t.find? q).or (if q.components <+: path.components then some .dir else none) := by
  rw [find?_addDirs]
  simp only [any_lineage_iff hq]

/-- A directory is created where there is no file. -/
theorem createDir_cases (h : t.createDir path = .ok next) :
    next = t.addDirs path ∧ ∀ contents, t.find? path ≠ some (.file contents) := by
  unfold createDir at h
  split at h
  · cases h
  · split at h
    · cases h
    · rename_i hfile
      cases h
      refine ⟨rfl, fun contents hpath => ?_⟩
      simp [hpath, Node.isFile, Node.contents?] at hfile

theorem find?_createDir (h : t.createDir path = .ok next) (q : FilePath) : next.find? q =
    (t.find? q).or (if (lineage path).any (·.same q) then some .dir else none) := by
  rw [(createDir_cases h).1]
  exact find?_addDirs t path q

/-- A directory is cleared if it is there. What is below goes, and nothing else. -/
theorem find?_clearDir (h : t.clearDir path = .ok next) : t.find? path = some .dir ∧
    ∀ q : FilePath, next.find? q =
      if q.isAtOrBelow path && !q.same path then none else t.find? q := by
  unfold clearDir at h
  split at h
  · cases h
  · split at h
    · rename_i hdir
      cases h
      refine ⟨hdir, fun q => ?_⟩
      rw [find?, lookup_filter (fun p => p.same path || !p.isAtOrBelow path)]
      · cases q.same path <;> cases q.isAtOrBelow path <;> rfl
      · intro p hp
        rw [FilePath.same_congr hp, FilePath.isAtOrBelow_congr hp]
    · cases h

/-- A file that is put at a path leaves what there is at all others. -/
theorem find?_addFile {contents : Bytes} {node : Node} (hq : path.same q = false)
    (h : t.find? q = some node) : (t.addFile path contents).find? q = some node := by
  rw [addFile, find?_put, hq, if_neg Bool.false_ne_true]
  split
  · rw [find?_addDirs, h]
    rfl
  · exact h

/-- At every path there is the file that was put there, or what there was, or a new directory on
the way to the file. -/
theorem find?_addFile_cases (t : Tree) (path : FilePath) (contents : Bytes) (q : FilePath) :
    path.same q = true ∧ (t.addFile path contents).find? q = some (.file contents) ∨
      (t.addFile path contents).find? q = t.find? q ∨
      t.find? q = none ∧ (t.addFile path contents).find? q = some .dir ∧
        q.components <+: path.components ∧ q.components ≠ path.components := by
  by_cases hq : path.same q = true
  · refine .inl ⟨hq, ?_⟩
    rw [addFile, find?_put, if_pos hq]
  · refine .inr ?_
    rw [addFile, find?_put, if_neg hq]
    split
    · rename_i parent hparent
      rw [find?_addDirs]
      by_cases hlineage : (lineage parent).any (·.same q) = true
      · rw [if_pos hlineage]
        cases hfind : t.find? q with
        | some node => exact .inl rfl
        | none =>
            obtain ⟨above, habove, hsame⟩ := List.any_eq_true.mp hlineage
            obtain ⟨step, hstep⟩ := FilePath.components_parent hparent
            refine .inr ⟨rfl, rfl, ?_, fun heq => hq (FilePath.same_iff.mpr heq.symm)⟩
            rw [← FilePath.same_iff.mp hsame, hstep]
            exact (FilePath.components_prefix_of_mem_ancestors
              (List.takeWhile_subset _ habove)).trans (List.prefix_append _ _)
      · rw [if_neg hlineage, Option.or_none]
        exact .inl rfl
    · exact .inl rfl

/-- A file that is put at a path comes with directories above it where there is nothing. -/
theorem find?_addFile_of_ne (hq : q.components ≠ []) (t : Tree) (path : FilePath)
    (contents : Bytes) : (t.addFile path contents).find? q =
      if path.same q then some (.file contents)
      else (t.find? q).or (if q.components <+: path.components then some .dir else none) := by
  rw [addFile, find?_put]
  by_cases hsame : path.same q = true
  · rw [if_pos hsame, if_pos hsame]
  · rw [if_neg hsame, if_neg hsame]
    split
    · rename_i parent hparent
      obtain ⟨step, hstep⟩ := FilePath.components_parent hparent
      have hother : q.components ≠ parent.components ++ [step] := by
        intro heq
        exact hsame (FilePath.same_iff.mpr (hstep.trans heq.symm))
      have habove : q.components <+: path.components ↔ q.components <+: parent.components := by
        rw [hstep, List.prefix_concat_iff, or_iff_right hother]
      rw [find?_addDirs_of_ne hq]
      simp only [habove]
    · rename_i hparent
      have hnone : ¬q.components <+: path.components := by
        intro hbegins
        exact hsame (FilePath.same_iff.mpr
          (FilePath.eq_of_parent?_eq_none hparent hq hbegins).symm)
      rw [if_neg hnone, Option.or_none]

/-- At a path there is what there was, or what has been put on the way to another one. -/
theorem isSome_addDirs_iff (hq : q.components ≠ []) :
    ((t.addDirs path).find? q).isSome = true ↔
      (t.find? q).isSome = true ∨ q.components <+: path.components := by
  rw [find?_addDirs_of_ne hq, Option.isSome_or, Bool.or_eq_true]
  by_cases hbegins : q.components <+: path.components <;> simp [hbegins]

theorem isSome_addFile_iff {contents : Bytes} (hq : q.components ≠ []) :
    ((t.addFile path contents).find? q).isSome = true ↔
      (t.find? q).isSome = true ∨ q.components <+: path.components := by
  rw [find?_addFile_of_ne hq]
  by_cases hsame : path.same q = true
  · simp [if_pos hsame, ← FilePath.same_iff.mp hsame]
  · rw [if_neg hsame, ← isSome_addDirs_iff hq, find?_addDirs_of_ne hq]

/-- The directory that a file is put in is there afterwards. -/
theorem find?_addFile_parent {contents : Bytes} {step : Component} (hq : q.components ≠ [])
    (hpath : path.components = q.components ++ [step]) (h : t.find? q = none) :
    (t.addFile path contents).find? q = some .dir := by
  have hother : ¬path.same q = true := by
    rw [FilePath.same_iff, hpath]
    simp
  have hbegins : q.components <+: path.components := hpath ▸ List.prefix_append _ _
  rw [find?_addFile_of_ne hq, if_neg hother, h, if_pos hbegins]
  rfl

theorem failing_addDirs (t : Tree) (path : FilePath) : (t.addDirs path).failing = t.failing := by
  unfold addDirs
  generalize lineage path = paths
  induction paths generalizing t with
  | nil => rfl
  | cons first paths ih =>
      rw [List.foldl_cons, ih, addDirAt]
      split <;> rfl

theorem failing_addFile (t : Tree) (path : FilePath) (contents : Bytes) :
    (t.addFile path contents).failing = t.failing := by
  unfold addFile
  split
  · exact failing_addDirs t _
  · rfl

theorem copyFile_ok {source : FilePath} {contents : Bytes} (hfailing : t.failing = [])
    (h : t.find? source = some (.file contents)) :
    t.copyFile source path = .ok (t.addFile path contents) := by
  simp [copyFile, fails, hfailing, readBytes, h, Except.map]

theorem copyFile_cases {source : FilePath} (h : t.copyFile source path = .ok next) :
    ∃ contents, t.find? source = some (.file contents) ∧ next = t.addFile path contents := by
  unfold copyFile readBytes at h
  split at h
  · cases h
  · split at h <;> cases h
    rename_i contents hsource
    exact ⟨contents, hsource, rfl⟩

/-- A file is copied to one path, and all other files stay. That one stays too if the file is
copied to itself. -/
theorem find?_copyFile {source : FilePath} {kept : Bytes}
    (hq : path.same q = false ∨ path.same source = true) (h : t.find? q = some (.file kept))
    (hcopy : t.copyFile source path = .ok next) : next.find? q = some (.file kept) := by
  obtain ⟨contents, hsource, rfl⟩ := copyFile_cases hcopy
  cases hpath : path.same q with
  | false => exact find?_addFile hpath h
  | true =>
      have hsame : path.same source = true := hq.resolve_left (by simp [hpath])
      rw [← find?_congr hsame, find?_congr hpath, h] at hsource
      cases hsource
      rw [addFile, find?_put, if_pos hpath]

/-! ### What is there, and in which order -/

theorem find?_isSome_iff :
    (t.find? q).isSome = true ↔ ∃ entry ∈ t.nodes, entry.1.same q = true := by
  simp [find?, lookup]

theorem isIn_iff : isIn path q = true ↔ q.IsEntryOf path := by
  unfold isIn
  constructor
  · intro h
    split at h
    · rename_i parent hparent
      obtain ⟨step, hroot, hstep⟩ := FilePath.exists_step_of_parent? hparent
      exact ⟨step, hroot, by rw [hstep, FilePath.same_iff.mp h]⟩
    · cases h
  · rintro ⟨step, hroot, hstep⟩
    obtain ⟨parent, hparent, hcomponents⟩ := FilePath.parent?_of_last hstep hroot
    rw [hparent]
    exact FilePath.same_iff.mpr hcomponents

theorem list_cases {entries : List FilePath} (h : t.list path = .ok entries) :
    t.find? path = some .dir ∧ entries = (t.nodes.map (·.1)).filter (isIn path) := by
  unfold list at h
  split at h
  · rename_i hdir
    cases h
    exact ⟨hdir, rfl⟩
  · cases h

/-- What is in a directory is one step below it. -/
theorem mem_of_list {entries : List FilePath} (h : t.list path = .ok entries) :
    ∀ entry ∈ entries, (t.find? entry).isSome = true ∧
      ∃ step, entry.components = path.components ++ [step] := by
  obtain ⟨-, rfl⟩ := list_cases h
  intro entry hentry
  obtain ⟨hmem, hin⟩ := List.mem_filter.mp hentry
  obtain ⟨node, hnode, rfl⟩ := List.mem_map.mp hmem
  obtain ⟨step, -, hstep⟩ := isIn_iff.mp hin
  exact ⟨find?_isSome_iff.mpr ⟨node, hnode, FilePath.same_iff.mpr rfl⟩, step, hstep⟩

/-- A directory lists what is one step below it. -/
theorem exists_mem_list {entries : List FilePath} {step : Component}
    (hlist : t.list path = .ok entries) (hpath : path.components ≠ [])
    (hq : (t.find? q).isSome = true) (hstep : q.components = path.components ++ [step]) :
    ∃ entry ∈ entries, entry.components = path.components ++ [step] := by
  obtain ⟨-, rfl⟩ := list_cases hlist
  obtain ⟨node, hnode, hsame⟩ := find?_isSome_iff.mp hq
  have hsteps := (FilePath.same_iff.mp hsame).trans hstep
  have hin := isIn_iff.mpr ⟨step, FilePath.last_ne_root hsteps hpath, hsteps⟩
  exact ⟨node.1, List.mem_filter.mpr ⟨List.mem_map_of_mem hnode, hin⟩, hsteps⟩

/-- What is in a directory comes in order, as in the tree. -/
theorem list_inOrder {entries : List FilePath} (hlist : t.list path = .ok entries) :
    entries.Pairwise fun a b => a.isBefore b = true := by
  obtain ⟨-, rfl⟩ := list_cases hlist
  exact List.Pairwise.filter _ (List.pairwise_map.mpr t.ordered)

/-- A copy adds what is on the way to it. -/
theorem find?_isSome_copyFile {source : FilePath} (hcopy : t.copyFile source path = .ok next)
    (h : (next.find? q).isSome = true) :
    (t.find? q).isSome = true ∨ q.components <+: path.components := by
  obtain ⟨contents, -, rfl⟩ := copyFile_cases hcopy
  by_cases hq : q.components = []
  · exact .inr (hq ▸ List.nil_prefix)
  · exact (isSome_addFile_iff hq).mp h

end Files.Tree

end CaseRunner
