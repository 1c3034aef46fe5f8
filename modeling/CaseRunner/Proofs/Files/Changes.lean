import CaseRunner.Proofs.Files.Shape

/-!
# `CaseRunner.Proofs.Files.Changes`: what a change of a tree comes to

A change of a tree is refused in certain cases, and then it leaves the tree as it was. Otherwise it
is told by what there is at each path afterwards (`ComesTo`), and all else stays: the paths that are
marked as failing, and the spelling of a path that is there before and after (`Becomes`). Paths are
compared by their components alone, and a tree has its paths in order, so there is no more to it.

* `createDir_comesTo`: directories come to be on the way to a path where there is nothing yet.
* `clearDir_comesTo`: what is below a directory goes.
* `copyFile_comesTo`: a file comes to be at the target, and directories above it where there is
  nothing yet.
* `list_exact`: a directory lists its entries in order.
-/

set_option autoImplicit false

namespace CaseRunner

namespace Files

/-- The tree `next` has `what q` at each path `q`. It has the failing paths of `t`, and it spells the
paths that are in both trees as `t` does. -/
structure Tree.Becomes (t next : Tree) (what : FilePath → Option Node) : Prop where
  find? : ∀ q, next.find? q = what q
  failing : next.failing = t.failing
  spelling : ∀ old ∈ t.nodes, ∀ new ∈ next.nodes, new.1.same old.1 = true → new.1 = old.1

/-- The change is refused in the cases `refused`, and leaves the tree as it was. In all others it
succeeds, and there is `what q` at each path `q` afterwards. -/
def ComesTo (x : Change Tree Unit) (t : Tree) (refused : Prop) (what : FilePath → Option Node) :
    Prop :=
  (refused ∧ ∃ fault, x.run.run t = (.error fault, t)) ∨
    (¬refused ∧ ∃ next, x.run.run t = (.ok (), next) ∧ t.Becomes next what)

namespace Tree

variable {t next : Tree} {path q : FilePath} {what : FilePath → Option Node}

/-! ### Entries and their spelling -/

/-- A tree has one entry for all spellings of a way. -/
theorem eq_of_same {a b : FilePath × Node} (ha : a ∈ t.nodes) (hb : b ∈ t.nodes)
    (hsame : a.1.same b.1 = true) : a = b := by
  have hbefore : t.nodes.Pairwise fun a b => a.1.same b.1 = true → a = b :=
    t.ordered.imp fun hab hsame =>
      absurd (FilePath.same_iff.mp hsame) (FilePath.components_ne_of_isBefore hab)
  have hafter : t.nodes.Pairwise fun a b => b.1.same a.1 = true → b = a :=
    t.ordered.imp fun hab hsame =>
      absurd (FilePath.same_iff.mp hsame).symm (FilePath.components_ne_of_isBefore hab)
  exact hbefore.forall_of_forall_of_flip (fun _ _ _ => rfl) hafter ha hb hsame

theorem keys_subset_insert (path : FilePath) (node : Node) (nodes : List (FilePath × Node)) :
    nodes.map (·.1) ⊆ (insert path node nodes).map (·.1) := by
  induction nodes with
  | nil => exact List.nil_subset _
  | cons first rest ih =>
      rw [insert]
      split
      · exact fun p hp => hp
      · split
        · exact List.subset_cons_self _ _
        · exact List.cons_subset_cons _ ih

/-- No path goes when directories are added. -/
theorem keys_subset_addDirs (t : Tree) (path : FilePath) :
    t.nodes.map (·.1) ⊆ (t.addDirs path).nodes.map (·.1) := by
  unfold addDirs
  generalize lineage path = paths
  induction paths generalizing t with
  | nil => exact fun p hp => hp
  | cons first paths ih =>
      have hfirst : t.nodes.map (·.1) ⊆ (t.addDirAt first).nodes.map (·.1) := by
        unfold addDirAt
        split
        · exact fun p hp => hp
        · exact keys_subset_insert first .dir t.nodes
      exact List.Subset.trans hfirst (ih (t.addDirAt first))

theorem keys_subset_addFile (t : Tree) (path : FilePath) (contents : Bytes) :
    t.nodes.map (·.1) ⊆ (t.addFile path contents).nodes.map (·.1) := by
  unfold addFile
  split
  · exact List.Subset.trans (keys_subset_addDirs t _) (keys_subset_insert path _ _)
  · exact keys_subset_insert path _ _

/-- Where no path goes, each one keeps its spelling. -/
theorem Becomes.of_keys_subset (hfind : ∀ q, next.find? q = what q)
    (hfailing : next.failing = t.failing) (hkeys : t.nodes.map (·.1) ⊆ next.nodes.map (·.1)) :
    t.Becomes next what where
  find? := hfind
  failing := hfailing
  spelling old hold new hnew hsame := by
    obtain ⟨kept, hkept, heq⟩ := List.mem_map.mp (hkeys (List.mem_map_of_mem hold))
    rw [← heq] at hsame ⊢
    rw [eq_of_same hnew hkept hsame]

/-! ### Changes -/

/-- A change by a step of which it is known when it is refused and what it leads to. -/
theorem comesTo_change {step : Tree → Except FileFault Tree} {refused : Prop}
    (hrefused : (∃ fault, step t = .error fault) ↔ refused)
    (hok : ∀ next, step t = .ok next → t.Becomes next what) :
    ComesTo (change step) t refused what := by
  cases hstep : step t with
  | error fault => exact .inl ⟨hrefused.mp ⟨fault, hstep⟩, fault, run_change_error hstep⟩
  | ok next =>
      have hnot : ¬refused := by
        intro h
        obtain ⟨fault, hfault⟩ := hrefused.mpr h
        rw [hstep] at hfault
        cases hfault
      exact .inr ⟨hnot, next, run_change_ok hstep, hok next hstep⟩

/-- Directories come to be on the way to a path and at its end. What is left out are paths of no
steps that are not empty, which no string spells. -/
theorem find?_addDirs_of_leadsTo (hpath : path.components = [] → path.isEmpty = true) (t : Tree)
    (q : FilePath) : (t.addDirs path).find? q =
      (t.find? q).or (if q.LeadsTo path then some .dir else none) := by
  by_cases hq : q.components = []
  · rw [find?_addDirs_of_nil hpath hq, if_neg fun hleads => hleads.1 hq, Option.or_none]
  · rw [find?_addDirs_of_ne hq]
    simp only [FilePath.LeadsTo, hq, ne_eq, not_false_iff, true_and]

theorem createDir_comesTo (t : Tree) (path : String) :
    ComesTo (FileStore.createDir path) t
      (t.fails path = true ∨ ∃ contents, t.find? path = some (.file contents))
      fun q => (t.find? q).or (if q.LeadsTo path then some .dir else none) := by
  refine comesTo_change ?_ fun next hnext => ?_
  · show (∃ fault, t.createDir path = .error fault) ↔ _
    unfold createDir
    split
    · rename_i hfails
      exact iff_of_true ⟨_, rfl⟩ (.inl hfails)
    · rename_i hfails
      cases hnode : t.find? path with
      | none => simp [hfails]
      | some node => cases node <;> simp [hfails, Node.isFile, Node.contents?]
  · rw [(createDir_cases hnext).1]
    exact .of_keys_subset (find?_addDirs_of_leadsTo FilePath.isEmpty_ofString t)
      (failing_addDirs t path) (keys_subset_addDirs t path)

theorem clearDir_comesTo (t : Tree) (path : String) :
    ComesTo (FileStore.clearDir path) t (t.fails path = true ∨ t.find? path ≠ some .dir)
      fun q => if q.isAtOrBelow path && !q.same path then none else t.find? q := by
  refine comesTo_change ?_ fun next hnext => ?_
  · show (∃ fault, t.clearDir path = .error fault) ↔ _
    unfold clearDir
    split
    · rename_i hfails
      exact iff_of_true ⟨_, rfl⟩ (.inl hfails)
    · rename_i hfails
      split
      · rename_i hdir
        simp [hfails, hdir]
      · rename_i hdir
        exact iff_of_true ⟨_, rfl⟩ (.inr hdir)
  · have hfind := (find?_clearDir hnext).2
    -- Nothing comes to be there, so what is spelled now was spelled so before.
    obtain ⟨keep, hfailing, hnodes⟩ :
        ∃ keep, next.failing = t.failing ∧ next.nodes = t.nodes.filter keep := by
      unfold clearDir at hnext
      (repeat' split at hnext) <;> cases hnext
      exact ⟨_, rfl, rfl⟩
    exact {
      find? := hfind
      failing := hfailing
      spelling := fun old hold new hnew hsame => by
        rw [eq_of_same (List.mem_of_mem_filter (hnodes ▸ hnew)) hold hsame] }

/-- A file comes to be at a path, and directories above it where there is nothing. -/
theorem find?_addFile_of_isAbove (t : Tree) (path : FilePath) (contents : Bytes) (q : FilePath) :
    (t.addFile path contents).find? q = if path.same q then some (.file contents)
      else (t.find? q).or (if q.IsAbove path then some .dir else none) := by
  by_cases hsame : path.same q = true
  · rw [addFile, find?_put, if_pos hsame, if_pos hsame]
  · by_cases hq : q.components = []
    · rw [if_neg hsame, if_neg fun habove => habove.1 hq, Option.or_none, addFile, find?_put,
        if_neg hsame]
      split
      · rename_i parent hparent
        exact find?_addDirs_of_nil (FilePath.isEmpty_of_parent? hparent) hq
      · rfl
    · have hother : q.components ≠ path.components := fun heq =>
        hsame (FilePath.same_iff.mpr heq.symm)
      rw [find?_addFile_of_ne hq]
      simp only [FilePath.IsAbove, hq, hother, ne_eq, not_false_iff, true_and, and_true]

theorem copyFile_comesTo (t : Tree) (source target : String) :
    ComesTo (FileStore.copyFile source target) t
      (t.fails target = true ∨ ∀ contents, t.find? source ≠ some (.file contents))
      fun q => if FilePath.same target q then t.find? source
        else (t.find? q).or (if q.IsAbove target then some .dir else none) := by
  refine comesTo_change ?_ fun next hnext => ?_
  · show (∃ fault, t.copyFile source target = .error fault) ↔ _
    unfold copyFile readBytes
    split
    · rename_i hfails
      exact iff_of_true ⟨_, rfl⟩ (.inl hfails)
    · rename_i hfails
      cases hnode : t.find? source with
      | none => simp [hfails, Except.map]
      | some node => cases node <;> simp [hfails, Except.map]
  · obtain ⟨contents, hsource, rfl⟩ := copyFile_cases hnext
    rw [hsource]
    exact .of_keys_subset (find?_addFile_of_isAbove t target contents)
      (failing_addFile t target contents) (keys_subset_addFile t target contents)

/-! ### Listing a directory -/

/-- A directory, and nothing else, lists its entries, each one once and in order. -/
theorem list_exact (t : Tree) (path : FilePath) :
    ((∃ entries, t.list path = .ok entries) ↔ t.find? path = some .dir) ∧
      ∀ entries, t.list path = .ok entries →
        (entries.Pairwise fun a b => a.isBefore b = true) ∧
        ∀ q, q ∈ entries ↔ (∃ node, (q, node) ∈ t.nodes) ∧ q.IsEntryOf path := by
  constructor
  · constructor
    · rintro ⟨entries, hlist⟩
      exact (list_cases hlist).1
    · intro hdir
      exact ⟨_, if_pos hdir⟩
  · intro entries hlist
    refine ⟨list_inOrder hlist, fun q => ?_⟩
    obtain ⟨-, rfl⟩ := list_cases hlist
    rw [List.mem_filter, isIn_iff]
    simp

/-- A directory that has been cleared has no entries. -/
theorem not_isEntryOf_of_cleared (h : t.Becomes next fun q =>
    if q.isAtOrBelow path && !q.same path then none else t.find? q) {node : Node}
    (hnode : (q, node) ∈ next.nodes) : ¬q.IsEntryOf path := by
  rintro ⟨step, -, hstep⟩
  -- An entry is strictly below the directory, where nothing is left.
  have hthere : (next.find? q).isSome = true :=
    find?_isSome_iff.mpr ⟨(q, node), hnode, FilePath.same_iff.mpr rfl⟩
  have hbelow : q.isAtOrBelow path = true :=
    FilePath.isAtOrBelow_iff.mpr (hstep ▸ List.prefix_append _ _)
  have hother : q.same path = false := by
    rw [← Bool.not_eq_true, FilePath.same_iff, hstep]
    simp
  rw [h.find?, hbelow, hother] at hthere
  cases hthere

/-! ### All of it -/

/-- Creating a directory adds directories where there is nothing at the path or above it, and changes
nothing else. Clearing a directory removes what is below it, so that it has no entries, and nothing
else. Copying a file puts its contents at the target, adds directories where there is nothing above
the target, and changes nothing else. Where one of these is refused, the tree stays as it was. A
directory lists its entries in order. -/
theorem changes_exact (t : Tree) (path source target : String) :
    ComesTo (FileStore.createDir path) t
      (t.fails path = true ∨ ∃ contents, t.find? path = some (.file contents))
      (fun q => (t.find? q).or (if q.LeadsTo path then some .dir else none)) ∧
    ComesTo (FileStore.clearDir path) t (t.fails path = true ∨ t.find? path ≠ some .dir)
      (fun q => if q.isAtOrBelow path && !q.same path then none else t.find? q) ∧
    (∀ next, (FileStore.clearDir path : Change Tree Unit).run.run t = (.ok (), next) →
      FileStore.list next path = .ok []) ∧
    ComesTo (FileStore.copyFile source target) t
      (t.fails target = true ∨ ∀ contents, t.find? source ≠ some (.file contents))
      (fun q => if FilePath.same target q then t.find? source
        else (t.find? q).or (if q.IsAbove target then some .dir else none)) ∧
    ((∃ entries, FileStore.list t path = .ok entries) ↔ t.find? path = some .dir) ∧
    ∀ entries, FileStore.list t path = .ok entries →
      (entries.Pairwise fun a b => a.isBefore b = true) ∧
      ∀ q, q ∈ entries ↔ (∃ node, (q, node) ∈ t.nodes) ∧ q.IsEntryOf path := by
  refine ⟨createDir_comesTo t path, clearDir_comesTo t path, fun next hnext => ?_,
    copyFile_comesTo t source target, list_exact t path⟩
  rcases clearDir_comesTo t path with ⟨-, fault, hrun⟩ | ⟨hnot, cleared, hrun, hcleared⟩
  · cases hnext.symm.trans hrun
  · cases hnext.symm.trans hrun
    have hself : next.find? path = some .dir := by
      rw [hcleared.find?, FilePath.same_iff.mpr rfl]
      simpa using fun hdir => hnot (.inr hdir)
    obtain ⟨hlists, hentries⟩ := list_exact next path
    obtain ⟨entries, hlist⟩ := hlists.mpr hself
    show next.list path = _
    rw [hlist]
    congr 1
    refine List.eq_nil_iff_forall_not_mem.mpr fun q hq => ?_
    obtain ⟨⟨node, hnode⟩, hentry⟩ := ((hentries entries hlist).2 q).mp hq
    exact not_isEntryOf_of_cleared hcleared hnode hentry

/-- Two directories, of which one has a name that begins like the other's, and a failing path. -/
def siblings : List TreeStep := [.addFile "/d/a/f" [1], .addDir "/d/ab", .failOn "/d/c"]

/-- Clearing one of the directories takes the file in it and leaves the other one. Copying that file
to the failing path is refused, and nothing has changed. -/
theorem changes_exact_siblings :
    (∃ next, (FileStore.clearDir "/d/a" : Change Tree Unit).run.run (run siblings) =
        (.ok (), next) ∧ next.find? "/d/a/f" = none ∧ next.find? "/d/ab" = some .dir ∧
      FileStore.list next "/d/a" = .ok []) ∧
    ∃ fault, (FileStore.copyFile "/d/a/f" "/d/c" : Change Tree Unit).run.run (run siblings) =
      (.error fault, run siblings) := by
  obtain ⟨-, hclear, hempty, hcopy, -⟩ :=
    changes_exact (run siblings) "/d/a" "/d/a/f" "/d/c"
  refine ⟨?_, ?_⟩
  · rcases hclear with ⟨hrefused, -⟩ | ⟨-, next, hrun, hnext⟩
    · exact absurd hrefused (by decide +kernel)
    · refine ⟨next, hrun, ?_, ?_, hempty next hrun⟩
      · rw [hnext.find?]
        decide +kernel
      · rw [hnext.find?]
        decide +kernel
  · rcases hcopy with ⟨-, hrefused⟩ | ⟨hnot, -⟩
    · exact hrefused
    · exact absurd (.inl (by decide +kernel)) hnot

end Tree

end Files

end CaseRunner
