import CaseRunner.Proofs.Files.Mirror

/-!
# `CaseRunner.Proofs.Files.Shape`: when files in memory form a tree

Take a tree that was built from the empty one by any steps, whether they succeeded or not. It has
something at every path above what it holds (`Connected`). That there are directories only
(`Closed`) means besides that no file has anything below it (`FilesAreLeaves`), and no step looks
after that: a file can be put where something is below, and something can be put below a file. These
are the steps that clash with what is there (`Clashes`).

* `connected_run`: what is above a path is never missing.
* `FilesAreLeaves.after_iff`: a step leaves files without anything below them if and only if it
  does not clash.
* `reaches_iff`: by listing one directory after the other one gets to what is below a directory if
  and only if there are directories all the way.
* `run_shape`: so trees are closed as long as no step clashes, and no longer.
-/

set_option autoImplicit false

namespace CaseRunner

namespace Files

/-- A change of a tree, at paths that strings spell. -/
inductive TreeStep where
  /-- A file is put somewhere. -/
  | addFile (path : String) (contents : Bytes)
  /-- A directory is put somewhere. -/
  | addDir (path : String)
  /-- A path is marked as failing. -/
  | failOn (path : String)
  /-- A directory is created. -/
  | createDir (path : String)
  /-- A directory is cleared. -/
  | clearDir (path : String)
  /-- A file is copied. -/
  | copyFile (source target : String)
  deriving DecidableEq, Repr

namespace Tree

variable {t next : Tree} {p q above dir : FilePath}

/-- The tree after a step, whether that succeeds or not. -/
def after (t : Tree) : TreeStep → Tree
  | .addFile path contents => FileStore.deposit path contents t
  | .addDir path => t.addDirs path
  | .failOn path => t.failOn path
  | .createDir path => ((change (·.createDir path)).run.run t).2
  | .clearDir path => ((change (·.clearDir path)).run.run t).2
  | .copyFile source target => ((change (·.copyFile source target)).run.run t).2

/-- The tree after some steps, from the empty one on. -/
def run (steps : List TreeStep) : Tree := steps.foldl after empty

theorem run_concat (steps : List TreeStep) (step : TreeStep) :
    run (steps ++ [step]) = (run steps).after step := by
  simp [run]

/-- A step does nothing but mark a path, or adds directories, or puts a file, or clears a
directory. -/
theorem after_cases (t : Tree) (step : TreeStep) :
    (∀ q, (t.after step).find? q = t.find? q) ∨
      (∃ path : String, t.after step = t.addDirs path) ∨
      (∃ (path : String) (contents : Bytes), t.after step = t.addFile path contents) ∨
      ∃ path : String, t.clearDir path = .ok (t.after step) := by
  cases step with
  | addFile path contents => exact .inr (.inr (.inl ⟨path, contents, rfl⟩))
  | addDir path => exact .inr (.inl ⟨path, rfl⟩)
  | failOn path => exact .inl fun _ => rfl
  | createDir path =>
      rw [after]
      cases h : t.createDir path with
      | error fault => exact .inl fun _ => by rw [run_change_error h]
      | ok next => exact .inr (.inl ⟨path, by rw [run_change_ok h, (createDir_cases h).1]⟩)
  | clearDir path =>
      rw [after]
      cases h : t.clearDir path with
      | error fault => exact .inl fun _ => by rw [run_change_error h]
      | ok next => exact .inr (.inr (.inr ⟨path, by rw [run_change_ok h, h]⟩))
  | copyFile source target =>
      rw [after]
      cases h : t.copyFile source target with
      | error fault => exact .inl fun _ => by rw [run_change_error h]
      | ok next =>
          obtain ⟨contents, -, hnext⟩ := copyFile_cases h
          exact .inr (.inr (.inl ⟨target, contents, by rw [run_change_ok h, hnext]⟩))

/-! ### What is never missing -/

/-- Above what there is there is something. -/
def Connected (t : Tree) : Prop :=
  ∀ q above : FilePath, (t.find? q).isSome = true → above.IsAbove q →
    (t.find? above).isSome = true

/-- What is above what has been put somewhere has been put there too. -/
theorem Connected.of_isSome_iff (h : t.Connected)
    (hnext : ∀ q : FilePath, q.components ≠ [] → ((next.find? q).isSome = true ↔
      (t.find? q).isSome = true ∨ q.components <+: p.components)) : next.Connected := by
  intro q above hq habove
  rw [hnext above habove.1]
  rcases (hnext q habove.components_ne).mp hq with hq | hbegins
  · exact .inl (h q above hq habove)
  · exact .inr (habove.2.1.trans hbegins)

theorem Connected.clearDir (h : t.Connected) (hclear : t.clearDir p = .ok next) :
    next.Connected := by
  obtain ⟨-, hfind⟩ := find?_clearDir hclear
  intro q above hq habove
  rw [hfind] at hq ⊢
  split at hq
  · cases hq
  · rename_i hkept
    have hstays : ¬(above.isAtOrBelow p && !above.same p) = true := by
      -- What is below something that is below the directory is below the directory.
      intro hgone
      simp only [Bool.and_eq_true, Bool.not_eq_true', FilePath.isAtOrBelow_iff] at hgone hkept
      refine hkept ⟨hgone.1.trans habove.2.1, ?_⟩
      rw [← Bool.not_eq_true, FilePath.same_iff]
      intro heq
      have hlt := habove.length_lt
      have hle := hgone.1.length_le
      rw [heq] at hlt
      omega
    rw [if_neg hstays]
    exact h q above hq habove

theorem connected_run (steps : List TreeStep) : (run steps).Connected := by
  induction steps using List.reverseRecOn with
  | nil =>
      intro q above hq
      cases hq
  | append_singleton steps step ih =>
      rw [run_concat]
      rcases after_cases (run steps) step with hsame | ⟨path, hdirs⟩ | ⟨path, contents, hfile⟩ |
        ⟨path, hclear⟩
      · intro q above hq habove
        rw [hsame] at hq ⊢
        exact ih q above hq habove
      · rw [hdirs]
        exact ih.of_isSome_iff fun q hq => isSome_addDirs_iff hq
      · rw [hfile]
        exact ih.of_isSome_iff fun q hq => isSome_addFile_iff hq
      · exact ih.clearDir hclear

/-- Putting directories at and above a path puts none at the empty path. -/
theorem find?_addDirs_of_nil (hp : p.components = [] → p.isEmpty = true) (hq : q.components = []) :
    (t.addDirs p).find? q = t.find? q := by
  have hnone : ¬(lineage p).any (·.same q) = true := by
    rw [List.any_eq_true]
    rintro ⟨above, habove, hsame⟩
    have hempty := FilePath.isEmpty_of_mem_ancestors hp (List.takeWhile_subset _ habove)
      ((FilePath.same_iff.mp hsame).trans hq)
    have hnot := List.all_eq_true.mp List.all_takeWhile above habove
    simp [hempty] at hnot
  rw [find?_addDirs, if_neg hnone, Option.or_none]

theorem find?_addFile_of_nil {contents : Bytes} (hq : q.components = [])
    (hdir : (t.addFile p contents).find? q = some .dir) : t.find? q = some .dir := by
  rw [addFile, find?_put] at hdir
  split at hdir
  · cases hdir
  · split at hdir
    · rename_i parent hparent
      rwa [find?_addDirs_of_nil (FilePath.isEmpty_of_parent? hparent) hq] at hdir
    · exact hdir

/-- No tree that is built from the empty one has a directory at the empty path. -/
theorem components_of_isDir_run (steps : List TreeStep) (hdir : (run steps).find? q = some .dir) :
    q.components ≠ [] := by
  intro hq
  induction steps using List.reverseRecOn with
  | nil => cases hdir
  | append_singleton steps step ih =>
      rw [run_concat] at hdir
      refine ih ?_
      rcases after_cases (run steps) step with hsame | ⟨path, hdirs⟩ | ⟨path, contents, hfile⟩ |
        ⟨path, hclear⟩
      · rwa [hsame] at hdir
      · rwa [hdirs, find?_addDirs_of_nil FilePath.isEmpty_ofString hq] at hdir
      · rw [hfile] at hdir
        exact find?_addFile_of_nil hq hdir
      · rw [(find?_clearDir hclear).2] at hdir
        split at hdir
        · cases hdir
        · exact hdir

/-! ### Files and what is below them -/

/-- Something is below the path. -/
def Holds (t : Tree) (p : FilePath) : Prop := ∃ q : FilePath, p.IsAbove q ∧ (t.find? q).isSome = true

/-- There is a file above the path. -/
def FileAbove (t : Tree) (p : FilePath) : Prop :=
  ∃ (above : FilePath) (contents : Bytes), above.IsAbove p ∧ t.find? above = some (.file contents)

/-- No file has anything below it. -/
def FilesAreLeaves (t : Tree) : Prop :=
  ∀ (p : FilePath) (contents : Bytes), t.find? p = some (.file contents) → ¬t.Holds p

/-- What is above what there is, and no file, is a directory. -/
theorem Connected.closed_iff (h : t.Connected) : t.Closed ↔ t.FilesAreLeaves := by
  constructor
  · rintro hclosed p contents hfile ⟨q, habove, hq⟩
    have hdir := hclosed q p hq habove.1 (FilePath.isAtOrBelow_iff.mpr habove.2.1)
      habove.same_eq_false
    rw [hfile] at hdir
    cases hdir
  · intro hleaves q above hq hne hbelow hother
    have habove : above.IsAbove q := ⟨hne, FilePath.isAtOrBelow_iff.mp hbelow, by
      rwa [← Bool.not_eq_true, FilePath.same_iff] at hother⟩
    obtain ⟨node, hnode⟩ := Option.isSome_iff_exists.mp (h q above hq habove)
    cases node with
    | dir => exact hnode
    | file contents => exact absurd ⟨q, habove, hq⟩ (hleaves above contents hnode)

theorem find?_addDirs_eq_file_iff {contents : Bytes} (hq : q.components ≠ []) :
    (t.addDirs p).find? q = some (.file contents) ↔ t.find? q = some (.file contents) := by
  rw [find?_addDirs_of_ne hq]
  cases t.find? q with
  | some node => rfl
  | none => split <;> simp

theorem find?_addFile_eq_file_iff {contents kept : Bytes} (hq : q.components ≠ [])
    (hother : p.same q = false) :
    (t.addFile p contents).find? q = some (.file kept) ↔ t.find? q = some (.file kept) := by
  have hdirs : (t.addDirs p).find? q = some (.file kept) ↔ t.find? q = some (.file kept) :=
    find?_addDirs_eq_file_iff hq
  rw [← hdirs, find?_addFile_of_ne hq, find?_addDirs_of_ne hq, hother]
  rfl

/-- Directories are put below no file if there is none above. -/
theorem FilesAreLeaves.addDirs_iff (h : t.FilesAreLeaves) (p : FilePath) :
    (t.addDirs p).FilesAreLeaves ↔ ¬t.FileAbove p := by
  constructor
  · rintro hleaves ⟨above, contents, habove, hfile⟩
    refine hleaves above contents ((find?_addDirs_eq_file_iff habove.1).mpr hfile) ⟨p, habove, ?_⟩
    rw [isSome_addDirs_iff habove.components_ne]
    exact .inr List.prefix_rfl
  · rintro hno above contents hfile ⟨q, habove, hq⟩
    rw [find?_addDirs_eq_file_iff habove.1] at hfile
    rcases (isSome_addDirs_iff habove.components_ne).mp hq with hq | hbegins
    · exact h above contents hfile ⟨q, habove, hq⟩
    · exact hno ⟨above, contents, habove.extend hbegins, hfile⟩

/-- A file has nothing below it and is below no file if it is put where that is so. -/
theorem FilesAreLeaves.addFile_iff (h : t.FilesAreLeaves) (p : FilePath) (contents : Bytes) :
    (t.addFile p contents).FilesAreLeaves ↔ ¬(t.FileAbove p ∨ t.Holds p) := by
  constructor
  · rintro hleaves (⟨above, kept, habove, hfile⟩ | ⟨q, habove, hq⟩)
    · have hp : p.same above = false := by
        rw [← Bool.not_eq_true, FilePath.same_iff, eq_comm]
        exact habove.2.2
      refine hleaves above kept ((find?_addFile_eq_file_iff habove.1 hp).mpr hfile)
        ⟨p, habove, ?_⟩
      rw [isSome_addFile_iff habove.components_ne]
      exact .inr List.prefix_rfl
    · have hfile : (t.addFile p contents).find? p = some (.file contents) := by
        rw [find?_addFile_of_ne habove.1, if_pos (FilePath.same_iff.mpr rfl)]
      refine hleaves p contents hfile ⟨q, habove, ?_⟩
      rw [isSome_addFile_iff habove.components_ne]
      exact .inl hq
  · rintro hno above kept hfile ⟨q, habove, hq⟩
    rw [isSome_addFile_iff habove.components_ne] at hq
    cases hp : p.same above with
    | true =>
        have hbelow := habove.congr_left hp
        rcases hq with hq | hbegins
        · exact hno (.inr ⟨q, hbelow, hq⟩)
        · have hlt := hbelow.length_lt
          have hle := hbegins.length_le
          omega
    | false =>
        rw [find?_addFile_eq_file_iff habove.1 hp] at hfile
        rcases hq with hq | hbegins
        · exact h above kept hfile ⟨q, habove, hq⟩
        · exact hno (.inl ⟨above, kept, habove.extend hbegins, hfile⟩)

theorem FilesAreLeaves.clearDir (h : t.FilesAreLeaves) (hclear : t.clearDir p = .ok next) :
    next.FilesAreLeaves := by
  obtain ⟨-, hfind⟩ := find?_clearDir hclear
  have hkept {q : FilePath} {node : Node} (hq : next.find? q = some node) :
      t.find? q = some node := by
    rw [hfind] at hq
    split at hq
    · cases hq
    · exact hq
  rintro above contents hfile ⟨q, habove, hq⟩
  obtain ⟨node, hnode⟩ := Option.isSome_iff_exists.mp hq
  exact h above contents (hkept hfile) ⟨q, habove, Option.isSome_iff_exists.mpr ⟨node, hkept hnode⟩⟩

/-! ### Steps that clash -/

/-- A step succeeds that puts something below a file, or a file where something is below. -/
def Clashes (t : Tree) : TreeStep → Prop
  | .addFile path _ => t.FileAbove path ∨ t.Holds path
  | .addDir path => t.FileAbove path
  | .createDir path => (∃ next, t.createDir path = .ok next) ∧ t.FileAbove path
  | .copyFile source target =>
    (∃ next, t.copyFile source target = .ok next) ∧ (t.FileAbove target ∨ t.Holds target)
  | .failOn _ | .clearDir _ => False

/-- A step leaves files without anything below them if and only if it does not clash. -/
theorem FilesAreLeaves.after_iff (h : t.FilesAreLeaves) (step : TreeStep) :
    (t.after step).FilesAreLeaves ↔ ¬t.Clashes step := by
  cases step with
  | addFile path contents => exact h.addFile_iff path contents
  | addDir path => exact h.addDirs_iff path
  | failOn path => exact iff_of_true h (fun hno => hno)
  | createDir path =>
      rw [after, Clashes]
      cases hstep : t.createDir path with
      | error fault =>
          rw [run_change_error hstep]
          exact iff_of_true h fun ⟨⟨_, hok⟩, _⟩ => by cases hok
      | ok next =>
          rw [run_change_ok hstep, (createDir_cases hstep).1, h.addDirs_iff path]
          simp
  | clearDir path =>
      rw [after]
      cases hstep : t.clearDir path with
      | error fault =>
          rw [run_change_error hstep]
          exact iff_of_true h (fun hno => hno)
      | ok next =>
          rw [run_change_ok hstep]
          exact iff_of_true (h.clearDir hstep) (fun hno => hno)
  | copyFile source target =>
      rw [after, Clashes]
      cases hstep : t.copyFile source target with
      | error fault =>
          rw [run_change_error hstep]
          exact iff_of_true h fun ⟨⟨_, hok⟩, _⟩ => by cases hok
      | ok next =>
          obtain ⟨contents, -, hnext⟩ := copyFile_cases hstep
          rw [run_change_ok hstep, hnext, h.addFile_iff target contents]
          simp

/-! ### What listing directories leads to -/

/-- By listing directories, from `dir` on, one gets to a path. -/
inductive Reaches (t : Tree) : FilePath → FilePath → Prop
  | listed {dir entry q : FilePath} {entries : List FilePath} (hlist : t.list dir = .ok entries)
      (hentry : entry ∈ entries) (hsame : entry.same q = true) : Reaches t dir q
  | further {dir entry q : FilePath} {entries : List FilePath} (hlist : t.list dir = .ok entries)
      (hentry : entry ∈ entries) (hisDir : t.find? entry = some .dir)
      (hreaches : Reaches t entry q) : Reaches t dir q

theorem isAbove_of_list {entries : List FilePath} (hlist : t.list dir = .ok entries)
    (hdir : dir.components ≠ []) (hq : q ∈ entries) :
    dir.IsAbove q ∧ q.components.length = dir.components.length + 1 := by
  obtain ⟨-, step, hstep⟩ := mem_of_list hlist q hq
  rw [FilePath.IsAbove, hstep]
  exact ⟨⟨hdir, List.prefix_append _ _, by simp⟩, by simp⟩

theorem Reaches.isAbove (h : t.Reaches dir q) (hdir : dir.components ≠ []) : dir.IsAbove q := by
  induction h with
  | listed hlist hentry hsame =>
      have hentry := (isAbove_of_list hlist hdir hentry).1
      exact hentry.extend (FilePath.same_iff.mp hsame ▸ List.prefix_rfl)
  | further hlist hentry hisDir hreaches ih =>
      have hentry := (isAbove_of_list hlist hdir hentry).1
      exact hentry.extend (ih hentry.components_ne).2.1

/-- What can be reached has directories above it, from where one set out. -/
theorem Reaches.isDir (h : t.Reaches dir q) {between : FilePath} (hdir : dir.IsAbove between)
    (hq : between.IsAbove q) : t.find? between = some .dir := by
  induction h with
  | listed hlist hentry hsame =>
      have hlength := (isAbove_of_list hlist hdir.1 hentry).2
      rw [FilePath.same_iff.mp hsame] at hlength
      have hbetween := hdir.length_lt
      have hlast := hq.length_lt
      omega
  | @further dir entry q entries hlist hentry hisDir hreaches ih =>
      obtain ⟨hentry, hlength⟩ := isAbove_of_list hlist hdir.1 hentry
      -- The entry is on the way to `q`, and one step on from `dir`.
      have hbegins : entry.components <+: between.components :=
        List.prefix_of_prefix_length_le (hreaches.isAbove hentry.components_ne).2.1 hq.2.1
          (hlength ▸ hdir.length_lt)
      by_cases hsame : entry.components = between.components
      · exact find?_of_components hisDir hsame.symm
      · exact ih ⟨hentry.components_ne, hbegins, hsame⟩ hq

/-- From a directory one gets to what is below it if and only if there are directories all the
way. -/
theorem reaches_iff (hdir : t.find? dir = some .dir) (hbelow : dir.IsAbove q)
    (hq : (t.find? q).isSome = true) : t.Reaches dir q ↔
      ∀ between : FilePath, dir.IsAbove between → between.IsAbove q →
        t.find? between = some .dir := by
  constructor
  · intro h between hdir hq
    exact h.isDir hdir hq
  · intro hall
    obtain ⟨rest, hrest⟩ := hbelow.2.1
    induction rest generalizing dir with
    | nil => exact absurd (hrest ▸ List.append_nil _).symm hbelow.2.2
    | cons step rest ih =>
        have hlist : t.list dir = .ok _ := if_pos hdir
        rw [← List.singleton_append, ← List.append_assoc] at hrest
        by_cases hlast : rest = []
        · rw [hlast, List.append_nil] at hrest
          obtain ⟨entry, hentry, hsteps⟩ := exists_mem_list hlist hbelow.1 hq hrest.symm
          exact .listed hlist hentry (FilePath.same_iff.mpr (hsteps.trans hrest))
        · obtain ⟨between, hbetween⟩ := FilePath.exists_components hrest.symm (by simp)
          have habove : between.IsAbove q := by
            rw [FilePath.IsAbove, hbetween, ← hrest]
            exact ⟨by simp, List.prefix_append _ _, by simp [hlast]⟩
          have hisDir : t.find? between = some .dir :=
            hall between ⟨hbelow.1, by simp [hbetween], by simp [hbetween]⟩ habove
          -- The directory lists the next one on the way, as it is spelled there.
          obtain ⟨entry, hentry, hsteps⟩ :=
            exists_mem_list hlist hbelow.1 (by rw [hisDir]; rfl) hbetween
          have hsame : entry.same between = true :=
            FilePath.same_iff.mpr (hsteps.trans hbetween.symm)
          have hentryDir : t.find? entry = some .dir := (find?_congr hsame t).trans hisDir
          have hon := (isAbove_of_list hlist hbelow.1 hentry).1
          refine .further hlist hentry hentryDir
            (ih hentryDir (habove.congr_left hsame) ?_ (hsteps ▸ hrest))
          intro deeper hdeeper hq
          exact hall deeper (hon.extend hdeeper.2.1) hq

/-- A directory that has been created is there, and what is above it is there. -/
theorem find?_createDir_above (h : t.createDir p = .ok next) :
    (p.components ≠ [] → next.find? p = some .dir) ∧
      ∀ above : FilePath, above.IsAbove p → (next.find? above).isSome = true ∧
        (next.find? above = some .dir ↔ ∀ contents, t.find? above ≠ some (.file contents)) := by
  obtain ⟨rfl, hfile⟩ := createDir_cases h
  have hnode (q : FilePath) (hq : q.components ≠ []) (hbegins : q.components <+: p.components) :
      ((t.addDirs p).find? q).isSome = true ∧ ((t.addDirs p).find? q = some .dir ↔
        ∀ contents, t.find? q ≠ some (.file contents)) := by
    rw [find?_addDirs_of_ne hq, if_pos hbegins]
    cases hnode : t.find? q with
    | none => simp
    | some node => cases node <;> simp
  constructor
  · intro hp
    exact (hnode p hp List.prefix_rfl).2.mpr hfile
  · intro above habove
    exact hnode above habove.1 habove.2.1

/-! ### Trees that are built step by step -/

/-- A tree that is built from the empty one has something above all it holds. It stays closed as
long as no step puts something below a file or a file where something is below, and no longer. A
file below a directory is reached from there by listing if there are directories all the way, and
not otherwise. A directory that is created is there, and above it there are directories but for the
files that were there before. -/
theorem run_shape (steps : List TreeStep) :
    (∀ q above : FilePath, ((run steps).find? q).isSome = true → above.IsAbove q →
      ((run steps).find? above).isSome = true) ∧
    ((∀ earlier, earlier <+: steps → (run earlier).Closed) ↔
      ∀ earlier step, earlier ++ [step] <+: steps → ¬(run earlier).Clashes step) ∧
    (∀ (dir q : FilePath) (contents : Bytes), (run steps).find? dir = some .dir →
      (run steps).find? q = some (.file contents) → q.isAtOrBelow dir = true →
      ((run steps).Reaches dir q ↔ ∀ between : FilePath, dir.IsAbove between →
        between.IsAbove q → (run steps).find? between = some .dir)) ∧
    ∀ (p : FilePath) (next : Tree), (run steps).createDir p = .ok next →
      (p.components ≠ [] → next.find? p = some .dir) ∧
      ∀ above : FilePath, above.IsAbove p → (next.find? above).isSome = true ∧
        (next.find? above = some .dir ↔
          ∀ contents, (run steps).find? above ≠ some (.file contents)) := by
  refine ⟨connected_run steps, ?_, ?_, fun p next => find?_createDir_above⟩
  · constructor
    · intro hclosed earlier step hstep
      have hbefore := hclosed earlier ((List.prefix_append earlier [step]).trans hstep)
      have hafter := hclosed (earlier ++ [step]) hstep
      rw [(connected_run _).closed_iff] at hbefore hafter
      rw [run_concat] at hafter
      exact (hbefore.after_iff step).mp hafter
    -- A tree that is closed before a step is closed after it, unless that clashes.
    · intro hnone earlier
      induction earlier using List.reverseRecOn with
      | nil =>
          intro _ q above hq
          cases hq
      | append_singleton earlier step ih =>
          intro hstep
          have hbefore := ih ((List.prefix_append earlier [step]).trans hstep)
          rw [(connected_run _).closed_iff] at hbefore ⊢
          rw [run_concat]
          exact (hbefore.after_iff step).mpr (hnone earlier step hstep)
  · intro dir q contents hdir hfile hbelow
    have habove : dir.IsAbove q := by
      refine ⟨components_of_isDir_run steps hdir, FilePath.isAtOrBelow_iff.mp hbelow, ?_⟩
      intro heq
      rw [find?_of_components hfile heq] at hdir
      cases hdir
    exact reaches_iff hdir habove (by rw [hfile]; rfl)

/-- With one file there, the file is in the directory above it. -/
theorem run_shape_small : (run [.addFile "/a/b" [1]]).Reaches "/a" "/a/b" := by
  obtain ⟨-, -, hreaches, -⟩ := run_shape [.addFile "/a/b" [1]]
  refine (hreaches "/a" "/a/b" [1] (by decide +kernel) (by decide +kernel)
    (by decide +kernel)).mpr ?_
  intro between hdir hfile
  -- There is no room between a directory and what is in it.
  have hlength : (FilePath.components "/a/b").length = (FilePath.components "/a").length + 1 := by
    decide +kernel
  have hbetween := hdir.length_lt
  have hlast := hfile.length_lt
  omega

/-- A directory is created below a file. -/
def dirBelowFile : List TreeStep := [.addFile "/a" [1], .createDir "/a/b"]

/-- A file is put where a directory has something in it. -/
def fileForDir : List TreeStep := [.addFile "/a/b" [1], .addFile "/a" [2]]

/-- Creating a directory below a file succeeds, and the file is still there, so above the directory
there is no directory. Putting a file where a directory has something in it leaves that where it
is, and no listing leads there. -/
theorem run_not_closed :
    ((run [.addFile "/a" [1]]).createDir "/a/b" = .ok (run dirBelowFile) ∧
      (run dirBelowFile).find? "/a" = some (.file [1]) ∧ ¬(run dirBelowFile).Closed) ∧
    (run fileForDir).find? "/a/b" = some (.file [1]) ∧ ¬(run fileForDir).Closed ∧
      (run fileForDir).find? "/" = some .dir ∧ ¬(run fileForDir).Reaches "/" "/a/b" := by
  have hnot {t : Tree} {contents : Bytes} (hbelow : (t.find? "/a/b").isSome = true)
      (hfile : t.find? "/a" = some (.file contents)) : ¬t.Closed := by
    intro hclosed
    have hdir := hclosed "/a/b" "/a" hbelow (by decide +kernel) (by decide +kernel)
      (by decide +kernel)
    rw [hfile] at hdir
    cases hdir
  have hfirst : (run dirBelowFile).find? "/a" = some (.file [1]) := by decide +kernel
  have hsecond : (run fileForDir).find? "/a" = some (.file [2]) := by decide +kernel
  refine ⟨⟨?_, hfirst, hnot (by decide +kernel) hfirst⟩, by decide +kernel,
    hnot (by decide +kernel) hsecond, by decide +kernel, ?_⟩
  · decide +kernel
  · intro hreaches
    have hdir : (run fileForDir).find? "/a" = some .dir := hreaches.isDir
      ⟨by decide +kernel, by decide +kernel, by decide +kernel⟩
      ⟨by decide +kernel, by decide +kernel, by decide +kernel⟩
    rw [hsecond] at hdir
    cases hdir

end Tree

end Files

end CaseRunner
