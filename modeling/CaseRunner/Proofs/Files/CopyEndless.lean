import CaseRunner.Proofs.Files.CopyEnding

/-!
# `CaseRunner.Proofs.Files.CopyEndless`: when copying directories never ends

If the target is two steps below the directory, copying a file in the directory makes it two
steps longer. The way down alternates between the step into the destination and the step into
the target (`turns`), and with a file beside every step that is listed before the way goes on,
there is always one more step to go by the time the end is reached (`Tree.Spiral`).

One step of going down is `Tree.Spiral.copied`: the file at the end is copied two steps further
on, so the way is longer by one step than it was. So no depth is enough (`copyTree_endless`,
`into_endless`).
-/

set_option autoImplicit false

namespace CaseRunner.Files

open FileAction

/-! ### The way down -/

section

variable (s z : Component)

/-- The steps of the way down that enters the target again and again. -/
def turn (n : Nat) : Component := if n % 2 = 0 then z else s

/-- So many steps of the way down. -/
def turns : Nat → List Component
  | 0 => []
  | n + 1 => turns n ++ [turn s z n]

@[simp] theorem length_turns (n : Nat) : (turns s z n).length = n := by
  induction n with
  | zero => rfl
  | succ n ih => simp [turns, ih]

theorem turns_add_two (n : Nat) : turns s z (n + 2) = z :: s :: turns s z n := by
  induction n with
  | zero => rfl
  | succ n ih =>
      have hturn : turn s z (n + 2) = turn s z n := by rw [turn, Nat.add_mod_right, turn]
      rw [turns, ih, turns, hturn]
      rfl

theorem prefix_turns {steps : List Component} {n : Nat} (h : steps <+: turns s z n) :
    ∃ m ≤ n, steps = turns s z m := by
  induction n with
  | zero => exact ⟨0, Nat.le_refl 0, List.prefix_nil.mp h⟩
  | succ n ih =>
      rcases List.prefix_concat_iff.mp h with heq | hprefix
      · exact ⟨n + 1, Nat.le_refl _, heq⟩
      · obtain ⟨m, hm, heq⟩ := ih hprefix
        exact ⟨m, Nat.le_succ_of_le hm, heq⟩

end

/-! ### One step down -/

section

variable {t next : Tree} {ws : Workspace Tree} {root target dir path : FilePath}
  {a s z : Component} {n : Nat}

/-- A tree in which the way down has been gone so many steps, and goes on for one more. Beside
every step there is a file `a`, and nothing else is below the directory. -/
structure Tree.Spiral (root : FilePath) (a s z : Component) (n : Nat) (t : Tree) : Prop where
  failing : t.failing = []
  dirs : ∀ m ≤ n + 1, ∃ q : FilePath,
    q.components = root.components ++ turns s z m ∧ t.find? q = some .dir
  files : ∀ m ≤ n + 1, ∃ (q : FilePath) (contents : Bytes),
    q.components = root.components ++ (turns s z m ++ [a]) ∧ t.find? q = some (.file contents)
  only : ∀ (q : FilePath) (rest : List Component), (t.find? q).isSome = true →
    q.components = root.components ++ rest →
    ∃ m ≤ n + 1, rest = turns s z m ∨ rest = turns s z m ++ [a]

/-- The file beside the way is listed before the way goes on. -/
theorem lt_turn (hs : a.orderKey < s.orderKey) (hz : a.orderKey < z.orderKey) (n : Nat) :
    a.orderKey < (turn s z n).orderKey := by
  unfold turn
  split
  · exact hz
  · exact hs

/-- Of two entries the one that is before the other is listed first. -/
theorem pair_of_sorted {entries : List FilePath} {steps : List Component} {b : Component}
    (hab : a.orderKey < b.orderKey) (hsorted : entries.Pairwise fun p q => p.isBefore q = true)
    (hfirst : ∃ p ∈ entries, p.components = steps ++ [a])
    (hsecond : ∃ q ∈ entries, q.components = steps ++ [b])
    (hall : ∀ p ∈ entries, p.components = steps ++ [a] ∨ p.components = steps ++ [b]) :
    ∃ p q, entries = [p, q] ∧ p.components = steps ++ [a] ∧ q.components = steps ++ [b] := by
  have hnot {p q : FilePath} (hp : p.components = steps ++ [b]) (hq : q ∈ entries) :
      ¬p.isBefore q = true := by
    intro hbefore
    rcases hall q hq with hqa | hqb
    · have hback := FilePath.isBefore_trans hbefore (FilePath.isBefore_of_append hqa hp hab)
      exact FilePath.components_ne_of_isBefore hback rfl
    · exact FilePath.components_ne_of_isBefore hbefore (hp.trans hqb.symm)
  obtain ⟨p, hp, hpa⟩ := hfirst
  obtain ⟨q, hq, hqb⟩ := hsecond
  have hdiffers : steps ++ [a] ≠ steps ++ [b] :=
    hpa ▸ hqb ▸ FilePath.components_ne_of_isBefore (FilePath.isBefore_of_append hpa hqb hab)
  match entries, hp, hq with
  | first :: rest, hp, hq =>
    obtain ⟨hbefore, hsorted⟩ := List.pairwise_cons.mp hsorted
    have hfirst : first.components = steps ++ [a] := by
      refine (hall first List.mem_cons_self).resolve_right fun hb => ?_
      rcases List.mem_cons.mp hp with rfl | hrest
      · exact hdiffers (hpa.symm.trans hb)
      · exact hnot hb hp (hbefore p hrest)
    match rest, List.mem_cons.mp hq with
    | [], hq =>
      obtain rfl : q = first := by simpa using hq
      exact absurd (hfirst.symm.trans hqb) hdiffers
    | second :: more, hq =>
      obtain ⟨hbefore', -⟩ := List.pairwise_cons.mp hsorted
      have hsecond : second.components = steps ++ [b] := by
        refine (hall second (by simp)).resolve_left fun ha => ?_
        exact FilePath.components_ne_of_isBefore (hbefore second List.mem_cons_self)
          (hfirst.trans ha.symm)
      cases more with
      | nil => exact ⟨first, second, rfl, hfirst, hsecond⟩
      | cons third more =>
          exact absurd (hbefore' third List.mem_cons_self) (hnot hsecond (by simp))

/-- The directory at the end of the way has the file and then the next directory. -/
theorem Tree.Spiral.list (h : t.Spiral root a s z n) (hroot : root.components ≠ [])
    (hs : a.orderKey < s.orderKey) (hz : a.orderKey < z.orderKey)
    (hdir : dir.components = root.components ++ turns s z n) :
    ∃ file below : FilePath, t.list dir = .ok [file, below] ∧
      file.components = root.components ++ (turns s z n ++ [a]) ∧
      below.components = root.components ++ turns s z (n + 1) := by
  obtain ⟨q, hq, hfound⟩ := h.dirs n (Nat.le_succ n)
  have hlist : ∃ entries, t.list dir = .ok entries := by
    unfold Tree.list
    rw [if_pos (Tree.find?_of_components hfound (hdir.trans hq.symm))]
    exact ⟨_, rfl⟩
  obtain ⟨entries, hlist⟩ := hlist
  have hne : dir.components ≠ [] := by simp [hdir, hroot]
  have hfile : ∃ p ∈ entries, p.components = dir.components ++ [a] := by
    obtain ⟨q, contents, hq, hfound⟩ := h.files n (Nat.le_succ n)
    have hstep : q.components = dir.components ++ [a] := by simp [hq, hdir]
    exact Tree.exists_mem_list hlist hne (by simp [hfound]) hstep
  have hbelow : ∃ p ∈ entries, p.components = dir.components ++ [turn s z n] := by
    obtain ⟨q, hq, hfound⟩ := h.dirs (n + 1) (Nat.le_refl _)
    have hstep : q.components = dir.components ++ [turn s z n] := by simp [hq, hdir, turns]
    exact Tree.exists_mem_list hlist hne (by simp [hfound]) hstep
  have hall : ∀ p ∈ entries, p.components = dir.components ++ [a] ∨
      p.components = dir.components ++ [turn s z n] := by
    intro p hp
    obtain ⟨hstored, step, hstep⟩ := Tree.mem_of_list hlist p hp
    obtain ⟨m, -, hrest⟩ := h.only p (turns s z n ++ [step]) hstored (by simp [hstep, hdir])
    -- One step below the end of the way, that is the next one or a file beside it.
    rcases hrest with hturns | hside
    · have hlength := congrArg List.length hturns
      rw [List.length_append, length_turns, length_turns, List.length_singleton] at hlength
      rw [← hlength, turns] at hturns
      rw [hstep, List.append_cancel_left hturns]
      exact .inr rfl
    · rw [hstep, (List.append_inj' hside rfl).2]
      exact .inl rfl
  obtain ⟨file, below, rfl, hfile, hbelow⟩ :=
    pair_of_sorted (lt_turn hs hz n) (Tree.list_inOrder hlist) hfile hbelow hall
  exact ⟨file, below, hlist, by simp [hfile, hdir], by simp [hbelow, hdir, turns]⟩

/-- The file at the end of the way is copied two steps further on. So when one more step is gone,
the way goes on for one more again. -/
theorem Tree.Spiral.copied {source : FilePath} (h : t.Spiral root a s z n)
    (hroot : root.components ≠ []) (hs : a.orderKey < s.orderKey) (hz : a.orderKey < z.orderKey)
    (hpath : path.components = root.components ++ (turns s z (n + 2) ++ [a]))
    (hcopy : t.copyFile source path = .ok next) : next.Spiral root a s z (n + 1) := by
  -- The file is longer than everything that is on the way or beside it already.
  have hother {q : FilePath} {m : Nat} {more : List Component} (hm : m + more.length ≤ n + 2)
      (hq : q.components = root.components ++ (turns s z m ++ more)) : path.same q = false := by
    rw [← Bool.not_eq_true, FilePath.same_iff, hpath, hq]
    intro heq
    have hlength := congrArg List.length heq
    simp at hlength
    omega
  obtain ⟨contents, hsource, rfl⟩ := Tree.copyFile_cases hcopy
  refine ⟨(t.failing_addFile path contents).trans h.failing, ?_, ?_, ?_⟩
  case refine_1 =>
    intro m hm
    rcases Nat.lt_or_eq_of_le hm with hold | rfl
    · obtain ⟨q, hq, hfound⟩ := h.dirs m (Nat.le_of_lt_succ hold)
      have hsteps : q.components = root.components ++ (turns s z m ++ []) := by simp [hq]
      exact ⟨q, hq, Tree.find?_addFile (hother (by simp; omega) hsteps) hfound⟩
    · rw [← List.append_assoc] at hpath
      obtain ⟨parent, -, hparent⟩ := FilePath.parent?_of_components hpath (by simp [hroot])
      refine ⟨parent, hparent, ?_⟩
      refine Tree.find?_addFile_parent (by simp [hparent, hroot]) (hparent.symm ▸ hpath) ?_
      -- The way did not lead there before.
      by_contra hsome
      obtain ⟨m, hm, hrest⟩ := h.only parent _ (Option.isSome_iff_ne_none.mpr hsome) hparent
      rcases hrest with hrest | hrest
      · have hlength := congrArg List.length hrest
        rw [length_turns, length_turns] at hlength
        omega
      · have hlt := lt_turn hs hz (n + 1)
        rw [List.singleton_inj.mp (List.append_inj' hrest rfl).2] at hlt
        exact lt_irrefl _ hlt
  case refine_2 =>
    intro m hm
    rcases Nat.lt_or_eq_of_le hm with hold | rfl
    · obtain ⟨q, kept, hq, hfound⟩ := h.files m (Nat.le_of_lt_succ hold)
      exact ⟨q, kept, hq, Tree.find?_addFile (hother (by simp; omega) hq) hfound⟩
    · refine ⟨path, contents, hpath, ?_⟩
      rw [Tree.addFile, Tree.find?_put, if_pos (FilePath.same_iff.mpr rfl)]
  case refine_3 =>
    intro q rest hq hrest
    rcases Tree.find?_isSome_copyFile hcopy hq with hold | hnew
    · obtain ⟨m, hm, hcases⟩ := h.only q rest hold hrest
      exact ⟨m, Nat.le_succ_of_le hm, hcases⟩
    · rw [hrest, hpath, List.prefix_append_right_inj] at hnew
      rcases List.prefix_concat_iff.mp hnew with heq | hprefix
      · exact ⟨n + 2, Nat.le_refl _, .inr heq⟩
      · obtain ⟨m, hm, heq⟩ := prefix_turns s z hprefix
        exact ⟨m, hm, .inl heq⟩

/-! ### Going down and down -/

/-- A file below the directory is copied, if no change fails. -/
theorem run_copyEntry_file {copyDir : FilePath → FileAction Tree Nat} {file : FilePath}
    {contents : Bytes} (hbelow : file.isAtOrBelow root = true)
    (hfile : ws.files.find? file = some (.file contents)) (hfailing : ws.files.failing = []) :
    ∃ relative, file.relativeTo? root = some relative ∧
      (copyEntry copyDir root target file).run.run ws = some (.ok 1,
        { ws with files := ws.files.addFile (target.join relative) contents }) := by
  obtain ⟨relative, hrelative⟩ := Option.isSome_iff_exists.mp (FilePath.relativeTo?_isSome hbelow)
  refine ⟨relative, hrelative, ?_⟩
  have hisDir : FileStore.isDir ws.files file = false := by
    show decide (ws.files.find? file = some .dir) = false
    rw [hfile]
    rfl
  have hcopy : (FileStore.copyFile file (target.join relative)).run.run ws.files =
      (.ok (), ws.files.addFile (target.join relative) contents) :=
    Tree.run_change_ok (Tree.copyFile_ok hfailing hfile)
  rw [copyEntry, hrelative]
  dsimp only
  rw [run_bind, run_ask, Option.bind_some, hisDir]
  dsimp only
  simp only [Bool.false_eq_true, if_false, run_bind, run_change, hcopy, Option.bind_some]
  rfl

/-- A directory below the directory is gone through. -/
theorem run_copyEntry_dir {copyDir : FilePath → FileAction Tree Nat} {dir : FilePath}
    (hbelow : dir.isAtOrBelow root = true) (hdir : ws.files.find? dir = some .dir) :
    (copyEntry copyDir root target dir).run.run ws = (copyDir dir).run.run ws := by
  obtain ⟨relative, hrelative⟩ := Option.isSome_iff_exists.mp (FilePath.relativeTo?_isSome hbelow)
  have hisDir : FileStore.isDir ws.files dir = true := decide_eq_true hdir
  rw [copyEntry, hrelative]
  dsimp only
  rw [run_bind, run_ask, Option.bind_some, hisDir]
  rfl

/-- Going down never ends: each time the file is copied to where the way leads on. By induction on
the depth. -/
theorem copyTree_endless (hroot : root.components ≠ [])
    (htarget : target.components = root.components ++ [z, s])
    (hs : a.orderKey < s.orderKey) (hz : a.orderKey < z.orderKey) (depth : Nat)
    (hdir : dir.components = root.components ++ turns s z n)
    (h : ws.files.Spiral root a s z n) : (copyTree depth root dir target).run.run ws = none := by
  induction depth generalizing n dir ws with
  | zero => rfl
  | succ depth ih =>
      obtain ⟨file, below, hlist, hfile, hbelow⟩ := h.list hroot hs hz hdir
      have hlisted : (tryAsk fun files => FileStore.list files dir).run.run ws =
          some (.ok [file, below], ws) := by
        rw [run_tryAsk]
        show some ((ws.files.list dir).mapError _, ws) = _
        rw [hlist]
        rfl
      -- The file is copied beside the way two steps further on.
      obtain ⟨_, contents, hq, hfound⟩ := h.files n (Nat.le_succ n)
      have hstored := Tree.find?_of_components hfound (hfile.trans hq.symm)
      obtain ⟨relative, hrelative, hcopied⟩ : ∃ relative, file.relativeTo? root = some relative ∧
          (copyEntry (fun entry => copyTree depth root entry target) root target file).run.run ws =
            some (.ok 1, { ws with files := ws.files.addFile (target.join relative) contents }) :=
        run_copyEntry_file (FilePath.isAtOrBelow_iff.mpr (hfile ▸ List.prefix_append _ _))
          hstored h.failing
      obtain ⟨hrooted, hsteps⟩ := FilePath.relativeTo?_steps hroot hrelative
      have hpath : (target.join relative).components =
          root.components ++ (turns s z (n + 2) ++ [a]) := by
        rw [FilePath.components_join (FilePath.isEmpty_of_components (by simp [htarget])) hrooted,
          List.append_cancel_left (hsteps.symm.trans hfile), htarget, turns_add_two]
        simp
      have hspiral := h.copied hroot hs hz hpath (Tree.copyFile_ok h.failing hstored)
      -- The next directory is gone through in the same way.
      obtain ⟨_, hq, hfound⟩ := hspiral.dirs (n + 1) (Nat.le_succ _)
      have hendless : (copyEntry (fun entry => copyTree depth root entry target) root target
          below).run.run { ws with files := ws.files.addFile (target.join relative) contents } =
            none := by
        rw [run_copyEntry_dir (FilePath.isAtOrBelow_iff.mpr (hbelow ▸ List.prefix_append _ _))
          (Tree.find?_of_components hfound (hbelow.trans hq.symm))]
        exact ih hbelow hspiral
      rw [copyTree, run_bind, hlisted, Option.bind_some]
      dsimp only
      rw [copyEntries_cons, run_bind, hcopied, Option.bind_some]
      dsimp only
      rw [copyEntries_cons, run_bind, run_bind, hendless]
      rfl

/-- If the target is two steps below the directory, with a file in the directory and one in the
destination that are listed before the way down, copying the directory back never ends. -/
theorem into_endless {destination : FilePath} {name : Segment} (hname : dir.fileName = some name)
    (hdestination : destination.components = dir.components ++ [z])
    (hs : a.orderKey < (Component.name name).orderKey) (hz : a.orderKey < z.orderKey)
    (h : ws.files.Spiral dir a (.name name) z 0) (depth : Nat) :
    (CopyBack.into depth destination [dir]).run.run ws = none := by
  have htargets : copyTargets destination [] [dir] = .ok [destination.child name] := by
    simp [copyTargets, hname, Except.map]
  obtain ⟨hroot, -⟩ := components_ne_nil_of_fileName hname destination
  have htarget : (destination.child name).components = dir.components ++ [z, .name name] := by
    simp [components_target hname, hdestination]
  obtain ⟨q, hq, hfound⟩ := h.dirs 0 (Nat.zero_le 1)
  have hstored : ws.files.find? dir = some .dir :=
    Tree.find?_of_components hfound (by simp [hq, turns])
  have hisDir : FileStore.isDir ws.files dir = true := decide_eq_true hstored
  have hstart : dir.components = dir.components ++ turns (.name name) z 0 := by simp [turns]
  have hendless := copyTree_endless hroot htarget hs hz depth hstart h
  unfold CopyBack.into
  rw [htargets]
  show (copyAll depth [(dir, destination.child name)]).run.run ws = none
  rw [copyAll, run_bind, run_ask, Option.bind_some, hisDir]
  simp only [if_true]
  rw [run_bind, hendless]
  rfl

/-- A file in a directory, and one in a directory in it. -/
def spiralTree : Tree := (Tree.empty.addFile "/s/a" [1]).addFile "/s/z/a" [2]

/-- Copying `/s` into `/s/z` never ends: it is called `/s/z/s` there, which has another `z` as
soon as the first one has been copied. -/
theorem into_endless_spiral :
    ¬∃ depth r ws', (CopyBack.into depth "/s/z" ["/s"]).run.run ⟨spiralTree, []⟩ =
      some (r, ws') := by
  have hname : FilePath.fileName "/s" = some ['s'] := by decide +kernel
  have hspiral : spiralTree.Spiral "/s" (.name ['a']) (.name ['s']) (.name ['z']) 0 := by
    refine ⟨by decide +kernel, ?_, ?_, ?_⟩
    · intro m hm
      match m, hm with
      | 0, _ => exact ⟨"/s", by decide +kernel⟩
      | 1, _ => exact ⟨"/s/z", by decide +kernel⟩
    · intro m hm
      match m, hm with
      | 0, _ => exact ⟨"/s/a", [1], by decide +kernel⟩
      | 1, _ => exact ⟨"/s/z/a", [2], by decide +kernel⟩
    · intro q rest hq hrest
      have hpaths : spiralTree.nodes.map (·.1.components) =
          [[.root], [.root, .name ['s']], [.root, .name ['s'], .name ['a']],
            [.root, .name ['s'], .name ['z']],
            [.root, .name ['s'], .name ['z'], .name ['a']]] := by decide +kernel
      have hroot : FilePath.components "/s" = [.root, .name ['s']] := by decide +kernel
      obtain ⟨node, hnode, hsame⟩ := Tree.find?_isSome_iff.mp hq
      have hmem := List.mem_map_of_mem (f := (·.1.components)) hnode
      rw [hpaths, FilePath.same_iff.mp hsame, hrest, hroot] at hmem
      simp only [List.cons_append, List.nil_append, List.mem_cons, List.cons.injEq, reduceCtorEq,
        true_and, false_or, List.not_mem_nil, or_false] at hmem
      rcases hmem with rfl | rfl | rfl | rfl
      · exact ⟨0, by decide, by decide⟩
      · exact ⟨0, by decide, by decide⟩
      · exact ⟨1, by decide, by decide⟩
      · exact ⟨1, by decide, by decide⟩
  rintro ⟨depth, r, ws', hrun⟩
  rw [into_endless hname (by decide +kernel) (by decide +kernel) (by decide +kernel) hspiral
    depth] at hrun
  cases hrun

end

end CaseRunner.Files
