import CaseRunner.Proofs.Files.CopyBack
import Mathlib.Algebra.Order.BigOperators.Group.List
import Mathlib.Algebra.Order.Group.Nat

/-!
# `CaseRunner.Proofs.Files.CopyEnding`: when copying directories comes to its end

Copying goes through a directory that it may itself add to, so it is not clear that it ends. The
depth is a bound on how far down it goes. More of it changes nothing once copying has ended
(`copyTree_refines`), so copying ends if it does with some depth.

* If the target is not below the directory, no copy in the directory is further down than what
  was copied, and there is a longest path (`copyTree_ends`).
* If the target is directly in the directory, copies nest in it one more time than what was
  copied, and not again while a directory is gone through that was listed before
  (`copyTree_ends_inside`).

So copying ends if no directory has the destination further down in it (`into_ends`).
-/

set_option autoImplicit false

namespace CaseRunner.Files

open FileAction

/-! ### One entry after the other -/

section

variable {σ : Type} [FileStore σ] {ws : Workspace σ} {I : σ → Prop} {Below : FilePath → Prop}
  {copyDir copyDir' : FilePath → FileAction σ Nat} {root target entry : FilePath}
  {entries : List FilePath}

/-- Copies one entry of a directory, and says how many files that was. -/
def copyEntry (copyDir : FilePath → FileAction σ Nat) (root target entry : FilePath) :
    FileAction σ Nat := do
  let some relative := entry.relativeTo? root
    | throw (FileFault.notBelow entry root).failure
  if ← ask fun files => FileStore.isDir files entry then copyDir entry
  else do
    change (FileStore.copyFile entry (target.join relative))
    pure 1

theorem copyEntries_cons (entry : FilePath) (rest : List FilePath) :
    copyEntries copyDir root target (entry :: rest) = (do
      let copied ← copyEntry copyDir root target entry
      return copied + (← copyEntries copyDir root target rest)) := by
  rw [copyEntries, copyEntry]
  cases entry.relativeTo? root with
  | none => rfl
  | some relative =>
      simp only [bind_assoc]
      congr 1
      funext isDir
      cases isDir <;> simp

theorem keeps_copyEntry (h : CopyKeeps I Below root target)
    (htree : ∀ dir, Below dir → Keeps I (copyDir dir)) (hentry : Below entry) :
    Keeps I (copyEntry copyDir root target entry) := by
  unfold copyEntry
  split
  · rename_i relative hrelative
    refine (keeps_ask _).bind fun isDir => ?_
    cases isDir with
    | true => exact htree entry hentry
    | false =>
        refine Keeps.bind (keeps_change fun files hfiles => ?_) fun _ => keeps_pure 1
        exact h.copy files entry relative hfiles hentry hrelative
  · exact keeps_throw _

/-- To copy an entry ends unless it is a directory that does not. -/
theorem copyEntry_ends (h : FileStore.isDir ws.files entry = true →
      ∃ r ws', (copyDir entry).run.run ws = some (r, ws')) :
    ∃ r ws', (copyEntry copyDir root target entry).run.run ws = some (r, ws') := by
  unfold copyEntry
  split
  · rename_i relative hrelative
    rw [run_bind, run_ask, Option.bind_some]
    cases hdir : FileStore.isDir ws.files entry with
    | true => exact h hdir
    | false =>
        simp only [Bool.false_eq_true, if_false, run_bind, run_change, Option.bind_some]
        cases ((FileStore.copyFile entry (target.join relative)).run.run ws.files).1 with
        | error fault => exact ⟨_, _, rfl⟩
        | ok _ => exact ⟨_, _, rfl⟩
  · exact ⟨_, _, rfl⟩

/-- Copying entries ends if each one does, where `J` is true of the files with the entries that
are left. -/
theorem copyEntries_ends {J : List FilePath → σ → Prop}
    (hentry : ∀ entry rest (ws : Workspace σ), J (entry :: rest) ws.files →
      ∃ r ws', (copyEntry copyDir root target entry).run.run ws = some (r, ws') ∧
        J rest ws'.files)
    (h : J entries ws.files) :
    ∃ r ws', (copyEntries copyDir root target entries).run.run ws = some (r, ws') := by
  induction entries generalizing ws with
  | nil => exact ⟨_, _, rfl⟩
  | cons entry rest ih =>
      obtain ⟨r, ws₁, hfirst, hrest⟩ := hentry entry rest ws h
      rw [copyEntries_cons, run_bind, hfirst, Option.bind_some]
      cases r with
      | error failure => exact ⟨_, _, rfl⟩
      | ok copied =>
          obtain ⟨r, ws₂, hsecond⟩ := ih hrest
          dsimp only
          rw [run_bind, hsecond, Option.bind_some]
          cases r with
          | error failure => exact ⟨_, _, rfl⟩
          | ok more => exact ⟨_, _, rfl⟩

/-- A directory is copied to its end if its entries are, or else it cannot be listed. -/
theorem copyTree_ends_of_entries {dir : FilePath} {depth : Nat}
    (h : ∀ entries, FileStore.list ws.files dir = .ok entries →
      ∃ r ws', (copyEntries (fun entry => copyTree depth root entry target) root target
        entries).run.run ws = some (r, ws')) :
    ∃ r ws', (copyTree (depth + 1) root dir target).run.run ws = some (r, ws') := by
  rw [copyTree, run_bind, run_tryAsk, Option.bind_some]
  cases hlist : FileStore.list ws.files dir with
  | error fault => exact ⟨_, _, rfl⟩
  | ok entries => exact h entries hlist

/-! ### More depth -/

theorem copyEntry_refines (h : ∀ dir, Refines (copyDir dir) (copyDir' dir)) (entry : FilePath) :
    Refines (copyEntry copyDir root target entry) (copyEntry copyDir' root target entry) := by
  unfold copyEntry
  cases entry.relativeTo? root with
  | none => exact .refl _
  | some relative =>
      refine (Refines.refl _).bind fun isDir => ?_
      cases isDir with
      | true => exact h entry
      | false => exact .refl _

theorem copyEntries_refines (h : ∀ dir, Refines (copyDir dir) (copyDir' dir))
    (entries : List FilePath) :
    Refines (copyEntries copyDir root target entries)
      (copyEntries copyDir' root target entries) := by
  induction entries with
  | nil => exact .refl _
  | cons entry rest ih =>
      rw [copyEntries_cons, copyEntries_cons]
      exact (copyEntry_refines h entry).bind fun copied => ih.bind fun more => .refl _

/-- What comes of copying with some depth comes of it with more. By induction on the depth: an
entry has as much more as its directory. -/
theorem copyTree_refines {depth depth' : Nat} (h : depth ≤ depth') (dir : FilePath) :
    Refines (copyTree depth root dir target : FileAction σ Nat)
      (copyTree depth' root dir target) := by
  induction depth generalizing depth' dir with
  | zero =>
      intro ws out hnone
      cases hnone
  | succ depth ih =>
      obtain ⟨more, rfl⟩ := Nat.exists_eq_add_of_le' (Nat.zero_lt_of_lt h)
      rw [copyTree, copyTree]
      refine (Refines.refl _).bind fun entries => copyEntries_refines (fun entry => ?_) entries
      exact ih (Nat.le_of_succ_le_succ h) entry

end

/-! ### Copies that do not go deeper -/

section

variable {t next : Tree} {ws ws' : Workspace Tree} {I : Tree → Prop} {Below : FilePath → Prop}
  {root target dir : FilePath}

theorem Tree.isSome_of_isDir {path : FilePath} (h : FileStore.isDir t path = true) :
    (t.find? path).isSome = true := by
  have hdir : t.find? path = some .dir := of_decide_eq_true h
  rw [hdir]
  rfl

/-- What copying a file does to a tree is that it goes to the same place below the target. So
this is all there is to look at for what copying from `root` to `target` keeps. -/
theorem CopyKeeps.ofTree (hroot : root.components ≠ []) (htarget : target.components ≠ [])
    (hdown : ∀ (path entry : FilePath) (step : Component), Below path →
      entry.components = path.components ++ [step] → Below entry)
    (hcopy : ∀ (t next : Tree) (entry path : FilePath) (rest : List Component), I t → Below entry →
      (t.find? entry).isSome = true → entry.components = root.components ++ rest →
      path.components = target.components ++ rest → t.copyFile entry path = .ok next → I next) :
    CopyKeeps I Below root target where
  list t path entries _ hpath hlist entry hentry := by
    obtain ⟨-, step, hstep⟩ := Tree.mem_of_list hlist entry hentry
    exact hdown path entry step hpath hstep
  copy t entry relative ht hentry hrelative := by
    show I ((Tree.change (·.copyFile entry (target.join relative))).run.run t).2
    cases hnext : t.copyFile entry (target.join relative) with
    | error fault =>
        rw [Tree.run_change_error hnext]
        exact ht
    | ok next =>
        rw [Tree.run_change_ok hnext]
        obtain ⟨hrooted, hsteps⟩ := FilePath.relativeTo?_steps hroot hrelative
        obtain ⟨contents, hsource, -⟩ := Tree.copyFile_cases hnext
        exact hcopy t next entry _ _ ht hentry (by simp [hsource]) hsteps
          (FilePath.components_join (FilePath.isEmpty_of_components htarget) hrooted) hnext

/-- If there is a bound on how long paths can be, and copying keeps it, then copying ends with
as much depth as there are steps up to the bound. By induction on the depth: the entries of a
directory are one step nearer to the bound. -/
theorem copyTree_ends (h : CopyKeeps I Below root target) {bound : Nat}
    (hbound : ∀ (t : Tree) (path : FilePath), I t → Below path → (t.find? path).isSome = true →
      path.components.length ≤ bound)
    {depth : Nat} (hdir : Below dir) (hlength : dir.components.length ≤ bound)
    (hdepth : bound < dir.components.length + depth) (ht : I ws.files) :
    ∃ r ws', (copyTree depth root dir target).run.run ws = some (r, ws') := by
  induction depth generalizing dir ws with
  | zero => omega
  | succ depth ih =>
      refine copyTree_ends_of_entries fun entries hlist => ?_
      -- What is met is below the directory, one step further on.
      refine copyEntries_ends (J := fun rest t => I t ∧ ∀ entry ∈ rest, Below entry ∧
        entry.components.length = dir.components.length + 1 ∧
        entry.components.length ≤ bound) (fun entry rest ws₁ hJ => ?_) ⟨ht, fun entry hentry => ?_⟩
      · obtain ⟨ht₁, hentries⟩ := hJ
        obtain ⟨hbelow, hstep, hle⟩ := hentries entry List.mem_cons_self
        obtain ⟨r, ws₂, hrun⟩ : ∃ r ws₂, (copyEntry (fun entry => copyTree depth root entry target)
            root target entry).run.run ws₁ = some (r, ws₂) :=
          copyEntry_ends fun _ => ih hbelow hle (by omega) ht₁
        refine ⟨r, ws₂, hrun, ?_, ?_⟩
        · exact keeps_copyEntry h (fun _ => keeps_copyTree h depth) hbelow ht₁ hrun
        · intro other hother
          exact hentries other (List.mem_cons_of_mem entry hother)
      · obtain ⟨hstored, step, hstep⟩ := Tree.mem_of_list hlist entry hentry
        have hbelow := h.list ws.files dir entries ht hdir hlist entry hentry
        exact ⟨hbelow, by simp [hstep], hbound _ _ ht hbelow hstored⟩

/-- Whatever is below the directory has so many steps at most. -/
def Tree.BelowWithin (root : FilePath) (bound : Nat) (t : Tree) : Prop :=
  ∀ q : FilePath, (t.find? q).isSome = true → root.components <+: q.components →
    q.components.length ≤ bound

/-- If the target is not below the directory, no copy in the directory is further down than what
was copied. -/
theorem Tree.copyKeeps_below (hroot : root.components ≠ []) (htarget : target.components ≠ [])
    (houtside : root.components <+: target.components →
      target.components.length ≤ root.components.length) (bound : Nat) :
    CopyKeeps (Tree.BelowWithin root bound) (root.components <+: ·.components) root target := by
  refine .ofTree hroot htarget ?_ ?_
  · intro path entry step hpath hstep
    exact hstep ▸ hpath.trans (List.prefix_append _ _)
  · intro t next entry path rest ht hentry hstored hsteps hpath hnext q hq hbelow
    rcases Tree.find?_isSome_copyFile hnext hq with hold | hnew
    · exact ht q hold hbelow
    · have hlength := ht entry hstored hentry
      rw [hsteps, List.length_append] at hlength
      rw [hpath] at hnew
      have hle := hnew.length_le
      rw [List.length_append] at hle
      -- The copy is below the directory only if the target is not longer than the directory.
      rcases Nat.le_total target.components.length root.components.length with hshort | hlong
      · omega
      · have hprefix := List.prefix_of_prefix_length_le (hbelow.trans hnew)
          (List.prefix_append _ _) hlong
        have := houtside hprefix
        omega

end

/-! ### A directory that is copied into itself -/

section

variable {t next : Tree} {ws ws' : Workspace Tree} {root target dir entry path : FilePath}
  {s : Component} {rest : List Component} {limit levels : Nat}

/-- So many steps remain at most of a path below the directory after those that lead into the
target again and again. -/
def Tree.RestsWithin (root : FilePath) (s : Component) (limit : Nat) (t : Tree) : Prop :=
  ∀ (q : FilePath) (rest : List Component), (t.find? q).isSome = true →
    q.components = root.components ++ rest → (rest.dropWhile (· = s)).length ≤ limit

/-- The target has been entered so many times at most. -/
def Tree.LevelsWithin (root : FilePath) (s : Component) (levels : Nat) (t : Tree) : Prop :=
  ∀ (q : FilePath) (rest : List Component), (t.find? q).isSome = true →
    q.components = root.components ++ rest → (rest.takeWhile (· = s)).length ≤ levels

/-- What a copy adds below the directory is on the way to the same place below the target. -/
theorem Tree.rest_of_copyFile (hpath : path.components = root.components ++ s :: rest)
    (hcopy : t.copyFile entry path = .ok next) {q : FilePath} {more : List Component}
    (hq : (next.find? q).isSome = true) (hmore : q.components = root.components ++ more) :
    (t.find? q).isSome = true ∨ more = [] ∨ ∃ before, more = s :: before ∧ before <+: rest := by
  refine (Tree.find?_isSome_copyFile hcopy hq).imp_right fun hprefix => ?_
  rw [hmore, hpath, List.prefix_append_right_inj, List.prefix_cons_iff] at hprefix
  exact hprefix

theorem length_dropWhile_mono {p : Component → Bool} {before rest : List Component}
    (h : before <+: rest) : (before.dropWhile p).length ≤ (rest.dropWhile p).length := by
  obtain ⟨after, rfl⟩ := h
  rw [List.dropWhile_append]
  split
  · rename_i hnil
    simp [List.isEmpty_iff.mp hnil]
  · simp

theorem length_takeWhile_mono {p : Component → Bool} {before rest : List Component}
    (h : before <+: rest) : (before.takeWhile p).length ≤ (rest.takeWhile p).length := by
  obtain ⟨after, rfl⟩ := h
  rw [List.takeWhile_append]
  split
  · rename_i hall
    simp [hall]
  · exact Nat.le_refl _

/-- A copy has as many steps left after entering the target as what was copied. -/
theorem Tree.RestsWithin.copyFile (h : t.RestsWithin root s limit)
    (hentry : (t.find? entry).isSome = true) (hsteps : entry.components = root.components ++ rest)
    (hpath : path.components = root.components ++ s :: rest)
    (hcopy : t.copyFile entry path = .ok next) : next.RestsWithin root s limit := by
  intro q more hq hmore
  rcases Tree.rest_of_copyFile hpath hcopy hq hmore with hold | rfl | ⟨before, rfl, hbefore⟩
  · exact h q more hold hmore
  · exact Nat.zero_le _
  · rw [List.dropWhile_cons_of_pos (by simp)]
    exact (length_dropWhile_mono hbefore).trans (h entry rest hentry hsteps)

/-- A copy enters the target once more than what was copied. -/
theorem Tree.LevelsWithin.copyFile (h : t.LevelsWithin root s levels)
    (hrest : (rest.takeWhile (· = s)).length < levels)
    (hpath : path.components = root.components ++ s :: rest)
    (hcopy : t.copyFile entry path = .ok next) : next.LevelsWithin root s levels := by
  intro q more hq hmore
  rcases Tree.rest_of_copyFile hpath hcopy hq hmore with hold | rfl | ⟨before, rfl, hbefore⟩
  · exact h q more hold hmore
  · exact Nat.zero_le _
  · rw [List.takeWhile_cons_of_pos (by simp), List.length_cons]
    have := length_takeWhile_mono (p := (· = s)) hbefore
    omega

/-- A path below the directory that leads into the target so many times and then elsewhere. -/
def Aside (root : FilePath) (s : Component) (level : Nat) (path : FilePath) : Prop :=
  ∃ (step : Component) (rest : List Component), step ≠ s ∧
    path.components = root.components ++ (List.replicate level s ++ step :: rest)

theorem Aside.takeWhile {level : Nat} {step : Component} (hstep : step ≠ s)
    (rest : List Component) :
    (List.replicate level s ++ step :: rest).takeWhile (· = s) = List.replicate level s := by
  simp [hstep]

theorem Aside.dropWhile {level : Nat} {step : Component} (hstep : step ≠ s)
    (rest : List Component) :
    (List.replicate level s ++ step :: rest).dropWhile (· = s) = step :: rest := by
  simp [hstep]

theorem Aside.down {level : Nat} {step : Component} (h : Aside root s level path)
    (hentry : entry.components = path.components ++ [step]) : Aside root s level entry := by
  obtain ⟨first, rest, hfirst, hpath⟩ := h
  exact ⟨first, rest ++ [step], hfirst, by simp [hentry, hpath]⟩

variable (hroot : root.components ≠ []) (htarget : target.components = root.components ++ [s])
include hroot htarget

theorem Tree.copyKeeps_rests (limit : Nat) (Below : FilePath → Prop)
    (hdown : ∀ (path entry : FilePath) (step : Component), Below path →
      entry.components = path.components ++ [step] → Below entry) :
    CopyKeeps (Tree.RestsWithin root s limit) Below root target := by
  refine .ofTree hroot (by simp [htarget]) hdown ?_
  intro t next entry path rest ht _ hstored hsteps hpath hnext
  exact ht.copyFile hstored hsteps (by simp [hpath, htarget]) hnext

theorem Tree.copyKeeps_levels {level : Nat} (hlevel : level < levels) :
    CopyKeeps (Tree.LevelsWithin root s levels) (Aside root s level) root target := by
  refine .ofTree hroot (by simp [htarget]) (fun _ _ _ h hentry => h.down hentry) ?_
  intro t next entry path rest ht haside hstored hsteps hpath hnext
  obtain ⟨step, after, hstep, hentry⟩ := haside
  rw [hsteps, List.append_cancel_left_eq] at hentry
  have hlow : (rest.takeWhile (· = s)).length < levels := by
    rw [hentry, Aside.takeWhile hstep, List.length_replicate]
    exact hlevel
  exact ht.copyFile hlow (by simp [hpath, htarget]) hnext

omit hroot htarget in
/-- Beside the target no path is longer than what remains at most. -/
theorem Tree.RestsWithin.length_le {level : Nat} (h : t.RestsWithin root s limit)
    (haside : Aside root s level path) (hstored : (t.find? path).isSome = true) :
    path.components.length ≤ root.components.length + level + limit := by
  obtain ⟨step, rest, hstep, hpath⟩ := haside
  have hle := h path _ hstored hpath
  rw [Aside.dropWhile hstep] at hle
  rw [hpath, List.length_append, List.length_append, List.length_replicate]
  omega

/-- Beside the target there is nothing new, so copying ends there. -/
theorem copyTree_ends_aside {depth level : Nat} (hdir : Aside root s level dir)
    (hstored : (ws.files.find? dir).isSome = true)
    (hdepth : root.components.length + level + limit < dir.components.length + depth)
    (ht : ws.files.RestsWithin root s limit) :
    ∃ r ws', (copyTree depth root dir target).run.run ws = some (r, ws') :=
  copyTree_ends (Tree.copyKeeps_rests hroot htarget limit (Aside root s level)
    fun _ _ _ h hentry => h.down hentry) (fun _ _ ht haside => ht.length_le haside) hdir
    (ht.length_le hdir hstored) hdepth ht

/-- While the entries of a directory are gone through, that was reached by entering the target so
many times: what is known of those that are left. If one of them leads into the target once more,
then nothing leads there too often yet. -/
structure Tree.Entered (root : FilePath) (s : Component) (limit levels : Nat) (dir : FilePath)
    (level : Nat) (rest : List FilePath) (t : Tree) : Prop where
  rests : t.RestsWithin root s limit
  steps : ∀ entry ∈ rest, ∃ step, entry.components = dir.components ++ [step]
  sorted : rest.Pairwise fun a b => a.isBefore b = true
  again : (∃ entry ∈ rest, entry.components = dir.components ++ [s]) →
    level < levels ∧ t.LevelsWithin root s levels

omit hroot htarget in
/-- What a directory lists leads into the target once more than the directory itself, so that is
possible. -/
theorem Tree.Entered.ofList {level : Nat} {entries : List FilePath}
    (hdir : dir.components = root.components ++ List.replicate level s)
    (hrests : t.RestsWithin root s limit) (hlevels : t.LevelsWithin root s levels)
    (hlist : t.list dir = .ok entries) : t.Entered root s limit levels dir level entries where
  rests := hrests
  steps entry hentry := (Tree.mem_of_list hlist entry hentry).2
  sorted := Tree.list_inOrder hlist
  again := by
    rintro ⟨entry, hentry, hs⟩
    refine ⟨?_, hlevels⟩
    have hentered := hlevels entry (List.replicate (level + 1) s)
      (Tree.mem_of_list hlist entry hentry).1 (by simp [hs, hdir, List.replicate_succ'])
    rwa [List.takeWhile_replicate, if_pos (by simp), List.length_replicate] at hentered

/-- After an entry is copied it is known of the others, whatever the entry is. Copies beside the
target do not lead there once more, and no entry after the one that leads there does. -/
theorem Tree.Entered.copied {depth level : Nat} {entries : List FilePath}
    {r : Except Failure Nat} (hdir : dir.components = root.components ++ List.replicate level s)
    (h : ws.files.Entered root s limit levels dir level (entry :: entries))
    (hrun : (copyEntry (fun entry => copyTree depth root entry target) root target
      entry).run.run ws = some (r, ws')) :
    ws'.files.Entered root s limit levels dir level entries := by
  obtain ⟨hbefore, hsorted⟩ := List.pairwise_cons.mp h.sorted
  have hkept : CopyKeeps (fun t : Tree => t.RestsWithin root s limit) (fun _ => True) root target :=
    Tree.copyKeeps_rests hroot htarget limit _ fun _ _ _ _ _ => trivial
  have hrests : ws'.files.RestsWithin root s limit :=
    keeps_copyEntry hkept (fun _ => keeps_copyTree hkept depth) trivial h.rests hrun
  refine ⟨hrests, fun other hother => h.steps other (List.mem_cons_of_mem entry hother), hsorted, ?_⟩
  rintro ⟨other, hother, hs⟩
  obtain ⟨hlevel, hlevels⟩ := h.again ⟨other, List.mem_cons_of_mem entry hother, hs⟩
  refine ⟨hlevel, ?_⟩
  obtain ⟨step, hstep⟩ := h.steps entry List.mem_cons_self
  have hbeside : step ≠ s := by
    rintro rfl
    exact FilePath.components_ne_of_isBefore (hbefore other hother) (hstep.trans hs.symm)
  have hkeptLevels := Tree.copyKeeps_levels hroot htarget hlevel
  exact keeps_copyEntry hkeptLevels (fun _ => keeps_copyTree hkeptLevels depth)
    ⟨step, [], hbeside, by simp [hstep, hdir]⟩ hlevels hrun

/-- Copying in the directory reached by entering the target so many times ends. By induction on
how often the target can still be entered: the next time is possible only if that was so before
the directory was listed, and copies beside the target do not change it. -/
theorem copyTree_ends_inside {depth level : Nat}
    (hdir : dir.components = root.components ++ List.replicate level s)
    (hlevel : level ≤ levels) (hdepth : limit + levels < level + depth)
    (hrests : ws.files.RestsWithin root s limit)
    (hlevels : ws.files.LevelsWithin root s levels) :
    ∃ r ws', (copyTree depth root dir target).run.run ws = some (r, ws') := by
  induction depth generalizing level dir ws with
  | zero => omega
  | succ depth ih =>
      refine copyTree_ends_of_entries fun entries hlist => ?_
      refine copyEntries_ends (J := Tree.Entered root s limit levels dir level)
        (fun entry rest ws₁ hJ => ?_) (.ofList hdir hrests hlevels hlist)
      obtain ⟨step, hstep⟩ := hJ.steps entry List.mem_cons_self
      have hends : FileStore.isDir ws₁.files entry = true →
          ∃ r ws', (copyTree depth root entry target).run.run ws₁ = some (r, ws') := by
        intro hisDir
        by_cases hs : step = s
        · obtain ⟨hagain, hlevels₁⟩ := hJ.again ⟨entry, List.mem_cons_self, hs ▸ hstep⟩
          have hentered : entry.components =
              root.components ++ List.replicate (level + 1) s := by
            simp [hstep, hs, hdir, List.replicate_succ']
          exact ih hentered hagain (by omega) hJ.rests hlevels₁
        · have hlength : entry.components.length = root.components.length + level + 1 := by
            simp [hstep, hdir, Nat.add_assoc]
          have haside : Aside root s level entry := ⟨step, [], hs, by simp [hstep, hdir]⟩
          exact copyTree_ends_aside hroot htarget haside (Tree.isSome_of_isDir hisDir) (by omega)
            hJ.rests
      obtain ⟨r, ws₂, hrun⟩ : ∃ r ws₂, (copyEntry (fun entry => copyTree depth root entry target)
          root target entry).run.run ws₁ = some (r, ws₂) := copyEntry_ends hends
      exact ⟨r, ws₂, hrun, hJ.copied hroot htarget hdir hrun⟩

end

/-! ### All directories -/

section

variable {ws : Workspace Tree} {dir destination : FilePath} {name : Segment}

/-- There is a longest path in a tree. -/
theorem Tree.exists_length_le (t : Tree) : ∃ bound, ∀ q : FilePath,
    (t.find? q).isSome = true → q.components.length ≤ bound := by
  refine ⟨(t.nodes.map fun entry => entry.1.components.length).sum, ?_⟩
  intro q hq
  obtain ⟨entry, hentry, hsame⟩ := Tree.find?_isSome_iff.mp hq
  rw [← FilePath.same_iff.mp hsame]
  exact List.le_sum_of_mem (List.mem_map_of_mem hentry)

/-- The target of a directory is one step below the destination. -/
theorem components_target (hname : dir.fileName = some name) (destination : FilePath) :
    (destination.child name).components = destination.components ++ [.name name] := by
  have hstep := FilePath.stepOf_fileName hname
  cases hempty : destination.isEmpty with
  | false => exact FilePath.components_child hempty hstep
  | true =>
      have hdot : name ≠ ['.'] := by
        rintro rfl
        cases hstep
      rw [FilePath.components_of_isEmpty hempty, FilePath.child, FilePath.join, if_neg (by simp),
        if_pos hempty]
      simp [FilePath.components, FilePath.headComponents, hstep, hdot]

/-- A directory that has the destination not further down in it is copied to its end. -/
theorem copyTree_ends_of_outside (hname : dir.fileName = some name)
    (hinside : dir.components <+: destination.components →
      destination.components = dir.components)
    (hdir : FileStore.isDir ws.files dir = true) :
    ∃ depth r ws', (copyTree depth dir dir (destination.child name)).run.run ws =
      some (r, ws') := by
  obtain ⟨hroot, hchild⟩ := components_ne_nil_of_fileName hname destination
  have htarget := components_target hname destination
  obtain ⟨bound, hbound⟩ := ws.files.exists_length_le
  by_cases hown : destination.components = dir.components
  · rw [hown] at htarget
    have hrest {q : FilePath} {rest : List Component} (hq : (ws.files.find? q).isSome = true)
        (hsteps : q.components = dir.components ++ rest) : rest.length ≤ bound := by
      have hle := hbound q hq
      rw [hsteps, List.length_append] at hle
      omega
    refine ⟨bound + bound + 1, ?_⟩
    have hrests : ws.files.RestsWithin dir (.name name) bound := by
      intro q rest hq hsteps
      exact (List.dropWhile_suffix _).length_le.trans (hrest hq hsteps)
    have hlevels : ws.files.LevelsWithin dir (.name name) bound := by
      intro q rest hq hsteps
      exact (List.takeWhile_prefix _).length_le.trans (hrest hq hsteps)
    have hentered : dir.components = dir.components ++ List.replicate 0 (.name name) := by simp
    exact copyTree_ends_inside hroot htarget hentered (Nat.zero_le bound) (by omega) hrests hlevels
  · refine ⟨bound + 1, ?_⟩
    have houtside : dir.components <+: (destination.child name).components →
        (destination.child name).components.length ≤ dir.components.length := by
      intro hprefix
      rw [htarget] at hprefix ⊢
      rcases List.prefix_concat_iff.mp hprefix with heq | habove
      · rw [heq]
      · exact absurd (hinside habove) hown
    refine copyTree_ends (Tree.copyKeeps_below hroot hchild houtside bound)
      (fun t path ht hpath hstored => ht path hstored hpath) List.prefix_rfl
      (hbound dir (Tree.isSome_of_isDir hdir)) (by omega) ?_
    intro q hq _
    exact hbound q hq

/-- Two parts one after the other end if each does, with the files that it gets. They end with the
larger of two depths. -/
theorem ends_bind {α β : Type} {x : Nat → FileAction Tree α} {f : Nat → α → FileAction Tree β}
    (hx : ∀ depth depth', depth ≤ depth' → Refines (x depth) (x depth'))
    (hf : ∀ depth depth', depth ≤ depth' → ∀ a, Refines (f depth a) (f depth' a))
    (hfirst : ∃ depth r ws', (x depth).run.run ws = some (r, ws'))
    (hsecond : ∀ depth a ws', (x depth).run.run ws = some (.ok a, ws') →
      ∃ depth r ws'', (f depth a).run.run ws' = some (r, ws'')) :
    ∃ depth r ws', (x depth >>= f depth).run.run ws = some (r, ws') := by
  obtain ⟨depth, r, ws₁, hrun⟩ := hfirst
  cases r with
  | error failure =>
      refine ⟨depth, .error failure, ws₁, ?_⟩
      rw [run_bind, hrun]
      rfl
  | ok a =>
      obtain ⟨depth', r, ws₂, hrun'⟩ := hsecond depth a ws₁ hrun
      refine ⟨max depth depth', r, ws₂, ?_⟩
      rw [run_bind, hx depth _ (Nat.le_max_left ..) hrun, Option.bind_some]
      exact hf depth' _ (Nat.le_max_right ..) a hrun'

theorem copyAll_refines {depth depth' : Nat} (h : depth ≤ depth')
    (pairs : List (FilePath × FilePath)) :
    Refines (copyAll depth pairs : FileAction Tree Unit) (copyAll depth' pairs) := by
  induction pairs with
  | nil => exact .refl _
  | cons pair rest ih =>
      rw [copyAll, copyAll]
      refine (Refines.refl _).bind fun isDir => ?_
      cases isDir with
      | true =>
          refine (copyTree_refines h pair.1).bind fun copied => ?_
          exact (Refines.refl _).bind fun _ => ih
      | false => exact (Refines.refl _).bind fun _ => ih

/-- Copying several directories ends if it does for each of them, whatever is there by then. -/
theorem copyAll_ends {pairs : List (FilePath × FilePath)}
    (h : ∀ pair ∈ pairs, ∀ ws : Workspace Tree, FileStore.isDir ws.files pair.1 = true →
      ∃ depth r ws', (copyTree depth pair.1 pair.1 pair.2).run.run ws = some (r, ws'))
    (ws : Workspace Tree) : ∃ depth r ws', (copyAll depth pairs).run.run ws = some (r, ws') := by
  induction pairs generalizing ws with
  | nil => exact ⟨0, _, _, rfl⟩
  | cons pair rest ih =>
      have hcopy := h pair List.mem_cons_self ws
      have hrest := ih fun other hother => h other (List.mem_cons_of_mem pair hother)
      simp only [copyAll, run_bind _ (ask _), run_ask, Option.bind_some]
      cases hdir : FileStore.isDir ws.files pair.1 with
      | false => exact hrest (ws.note _)
      | true =>
          refine ends_bind (fun _ _ h => copyTree_refines h pair.1) (fun _ _ h copied => ?_)
            (hcopy hdir) fun depth copied ws₁ hrun => ?_
          · exact (Refines.refl _).bind fun _ => copyAll_refines h rest
          · exact hrest (ws₁.note _)

/-- Copying directories back ends, in success or in failure, if none of them has the destination
further down in it: with enough depth always the same comes of it. -/
theorem into_ends (ws : Workspace Tree) (destination : FilePath) (dirs : List FilePath)
    (hinside : ∀ dir ∈ dirs, dir.components <+: destination.components →
      destination.components = dir.components) :
    ∃ bound r ws', ∀ depth, bound ≤ depth →
      (CopyBack.into depth destination dirs).run.run ws = some (r, ws') := by
  unfold CopyBack.into
  split
  · exact ⟨0, _, _, fun _ _ => rfl⟩
  · rename_i targets htargets
    obtain ⟨bound, r, ws', hrun⟩ : ∃ depth r ws',
        (copyAll depth (dirs.zip targets)).run.run ws = some (r, ws') := by
      refine copyAll_ends (fun pair hpair => ?_) ws
      obtain ⟨hmem, name, hname, htarget⟩ := child_of_copyTargets htargets pair hpair
      rw [htarget]
      exact fun ws => copyTree_ends_of_outside hname (hinside pair.1 hmem)
    refine ⟨bound, r, ws', ?_⟩
    intro depth hdepth
    exact copyAll_refines hdepth _ hrun

theorem into_ends_nested : ∃ bound r ws', ∀ depth, bound ≤ depth →
    (CopyBack.into depth "/s" ["/s"]).run.run ⟨nestedTree, []⟩ = some (r, ws') := by
  refine into_ends ⟨nestedTree, []⟩ "/s" ["/s"] ?_
  intro dir hdir _
  rw [List.mem_singleton.mp hdir]

end

end CaseRunner.Files
