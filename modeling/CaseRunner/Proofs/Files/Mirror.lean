import CaseRunner.Proofs.Files.CopyEnding
import Mathlib.Data.List.Infix
import Mathlib.Data.List.Nodup

/-!
# `CaseRunner.Proofs.Files.Mirror`: copies are exact

Copying directories back in memory makes a copy of every file in them, at the same place below
its target, and nothing else but the directories on the way there (`into_mirrors`). This is so if
no target is at, above or below a directory that is copied (`Apart`): then nothing is written to
what is still to be read.

`Copied` says which file is to be copied where, by the tree before. While copying goes on,
`Copying` holds: what there is at a path is what there was, or the copy that is to be there, or a
directory above a copy. So what is read is what there was, and a copy that has been made stays.
`Brought` says that all copies from a part of a directory have been made. It is shown for one
entry, for the entries of a directory and for all directories, together with the one reason for
which copying fails: a path that is marked as failing.
-/

set_option autoImplicit false

namespace CaseRunner.Files

open FileAction

variable {before t : Tree} {destination : FilePath} {dirs : List FilePath}

/-! ### The targets -/

section
variable {taken : List Segment}

/-- Directories have targets if each has a final name, and no two the same. -/
theorem copyTargets_ok_iff : (∃ targets, copyTargets destination taken dirs = .ok targets) ↔
    (∀ dir ∈ dirs, dir.fileName ≠ none) ∧ (dirs.map FilePath.fileName).Nodup ∧
      ∀ dir ∈ dirs, ∀ name ∈ taken, dir.fileName ≠ some name := by
  induction dirs generalizing taken with
  | nil => simp [copyTargets]
  | cons dir rest ih =>
      rw [copyTargets]
      cases hname : dir.fileName with
      | none => simp [hname]
      | some name =>
          have hmap {x : Except CopyRefusal (List FilePath)} :
              (∃ targets, x.map (destination.child name :: ·) = .ok targets) ↔
                ∃ targets, x = .ok targets := by
            cases x <;> simp [Except.map]
          by_cases htaken : name ∈ taken
          · simp only [htaken, if_true, reduceCtorEq, exists_false, false_iff]
            exact fun h => h.2.2 dir List.mem_cons_self name htaken hname
          · simp only [htaken, if_false, hmap, ih]
            constructor
            · rintro ⟨hnames, hnodup, hother⟩
              refine ⟨List.forall_mem_cons.mpr ⟨by simp [hname], hnames⟩,
                List.nodup_cons.mpr ⟨?_, hnodup⟩, List.forall_mem_cons.mpr ⟨?_, ?_⟩⟩
              · rintro hmem
                obtain ⟨other, hmem, hsame⟩ := List.mem_map.mp hmem
                exact hother other hmem name List.mem_cons_self (hsame.trans hname)
              · rintro used hused heq
                cases hname.symm.trans heq
                exact htaken hused
              · exact fun other hmem used hused =>
                  hother other hmem used (List.mem_cons_of_mem name hused)
            · rintro ⟨hnames, hnodup, hother⟩
              obtain ⟨hfirst, hnodup⟩ := List.nodup_cons.mp hnodup
              refine ⟨fun other hmem => hnames other (List.mem_cons_of_mem dir hmem), hnodup,
                fun other hmem used hused heq => ?_⟩
              rcases List.mem_cons.mp hused with rfl | hused
              · exact hfirst (List.mem_map.mpr ⟨other, hmem, heq.trans hname.symm⟩)
              · exact hother other (List.mem_cons_of_mem dir hmem) used hused heq

/-- Each directory has its target. -/
theorem mem_zip_of_copyTargets {targets : List FilePath}
    (h : copyTargets destination taken dirs = .ok targets) :
    ∀ dir ∈ dirs, ∃ target, (dir, target) ∈ dirs.zip targets := by
  induction dirs generalizing taken targets with
  | nil => simp
  | cons dir rest ih =>
      rw [copyTargets] at h
      split at h
      · cases h
      · split at h
        · cases h
        · rename_i name hname htaken
          cases hrest : copyTargets destination (name :: taken) rest with
          | error refusal =>
              rw [hrest] at h
              cases h
          | ok others =>
              rw [hrest] at h
              cases h
              intro other hother
              rcases List.mem_cons.mp hother with rfl | hother
              · exact ⟨_, List.mem_cons_self⟩
              · obtain ⟨target, htarget⟩ := ih hrest other hother
                exact ⟨target, List.mem_cons_of_mem _ htarget⟩

end

/-! ### What is to be copied -/

/-- Above what there is there are directories only. -/
def Tree.Closed (t : Tree) : Prop :=
  ∀ q above : FilePath, (t.find? q).isSome = true → above.components ≠ [] →
    q.isAtOrBelow above = true → above.same q = false → t.find? above = some .dir

/-- No target is at, above or below a directory that is copied. -/
def Apart (destination : FilePath) (dirs : List FilePath) : Prop :=
  ∀ dir ∈ dirs, ∀ name, dir.fileName = some name → ∀ source ∈ dirs,
    (destination.child name).isAtOrBelow source = false ∧
      source.isAtOrBelow (destination.child name) = false

/-- The contents are to be copied to the path: they are those of a file in one of the directories,
at the same place. -/
def Copied (before : Tree) (destination : FilePath) (dirs : List FilePath) (path : FilePath)
    (contents : Bytes) : Prop :=
  ∃ dir ∈ dirs, ∃ name, dir.fileName = some name ∧ before.find? dir = some .dir ∧
    ∃ source rest, source.components = dir.components ++ rest ∧
      before.find? source = some (.file contents) ∧
      path.components = (destination.child name).components ++ rest

namespace Copied

variable {path q : FilePath} {contents other : Bytes}

theorem of_components (h : Copied before destination dirs path contents)
    (heq : q.components = path.components) : Copied before destination dirs q contents := by
  obtain ⟨dir, hdir, name, hname, hisDir, source, rest, hsource, hfile, hpath⟩ := h
  exact ⟨dir, hdir, name, hname, hisDir, source, rest, hsource, hfile, heq.trans hpath⟩

/-- To one path one file is copied. -/
theorem unique (hnodup : (dirs.map FilePath.fileName).Nodup)
    (h : Copied before destination dirs path contents)
    (h' : Copied before destination dirs path other) : contents = other := by
  obtain ⟨dir, hdir, name, hname, -, source, rest, hsource, hfile, hpath⟩ := h
  obtain ⟨dir', hdir', name', hname', -, source', rest', hsource', hfile', hpath'⟩ := h'
  rw [hpath, components_target hname, components_target hname', List.append_assoc,
    List.append_assoc] at hpath'
  obtain ⟨hstep, rfl⟩ := List.cons.inj (List.append_cancel_left hpath')
  cases hstep
  obtain rfl := List.inj_on_of_nodup_map hnodup hdir hdir' (hname.trans hname'.symm)
  have hsame := Tree.find?_of_components hfile (hsource'.trans hsource.symm)
  rw [hfile'] at hsame
  cases hsame
  rfl

/-- No copy is written to a directory that is copied, or above it. -/
theorem not_prefix (h : Copied before destination dirs path contents)
    (hapart : Apart destination dirs) {dir : FilePath} (hdir : dir ∈ dirs) :
    ¬dir.components <+: path.components := by
  obtain ⟨from_, hfrom, name, hname, -, source, rest, -, -, hpath⟩ := h
  intro hprefix
  obtain ⟨hbelow, habove⟩ := hapart from_ hfrom name hname dir hdir
  rw [← Bool.not_eq_true, FilePath.isAtOrBelow_iff] at hbelow habove
  exact (List.prefix_or_prefix_of_prefix hprefix (hpath ▸ List.prefix_append _ _)).elim hbelow
    habove

end Copied

/-! ### While copies are made -/

/-- Some of the copies have been made. At a path there is what there was, or the copy that is to
be there, or a new directory above a copy. -/
structure Copying (before : Tree) (destination : FilePath) (dirs : List FilePath) (t : Tree) :
    Prop where
  failing : t.failing = before.failing
  nodes : ∀ q, t.find? q = before.find? q ∨
    (∃ contents, Copied before destination dirs q contents ∧ t.find? q = some (.file contents)) ∨
    before.find? q = none ∧ t.find? q = some .dir ∧
      ∃ path contents, Copied before destination dirs path contents ∧
        t.find? path = some (.file contents) ∧ q.components <+: path.components ∧
        q.components ≠ path.components

namespace Copying

variable {path q : FilePath} {contents : Bytes}

theorem refl (before : Tree) (destination : FilePath) (dirs : List FilePath) :
    Copying before destination dirs before := ⟨rfl, fun _ => .inl rfl⟩

/-- What is in a directory that is copied is as it was. -/
theorem find?_source (h : Copying before destination dirs t) (hapart : Apart destination dirs)
    {dir : FilePath} (hdir : dir ∈ dirs) (hq : dir.components <+: q.components) :
    t.find? q = before.find? q := by
  rcases h.nodes q with
    hsame | ⟨contents, hcopied, -⟩ | ⟨-, -, path, contents, hcopied, -, habove, -⟩
  · exact hsame
  · exact absurd hq (hcopied.not_prefix hapart hdir)
  · exact absurd (hq.trans habove) (hcopied.not_prefix hapart hdir)

/-- A copy that has been made stays. -/
theorem find?_copied (hnodup : (dirs.map FilePath.fileName).Nodup)
    (hcopied : Copied before destination dirs path contents) {kept : Bytes}
    (hq : Copied before destination dirs q kept) (hfind : t.find? q = some (.file kept)) :
    (t.addFile path contents).find? q = some (.file kept) := by
  cases hsame : path.same q with
  | false => exact Tree.find?_addFile hsame hfind
  | true =>
      have hunique := (hcopied.of_components (FilePath.same_iff.mp hsame).symm).unique hnodup hq
      rw [Tree.addFile, Tree.find?_put, if_pos hsame, hunique]

/-- One more copy is made. -/
theorem addFile (hnodup : (dirs.map FilePath.fileName).Nodup)
    (h : Copying before destination dirs t)
    (hcopied : Copied before destination dirs path contents) :
    Copying before destination dirs (t.addFile path contents) where
  failing := (t.failing_addFile path contents).trans h.failing
  nodes q := by
    rcases t.find?_addFile_cases path contents q with
      ⟨hsame, hfile⟩ | hkept | ⟨hnone, hdir, habove, hother⟩
    · exact .inr (.inl ⟨contents, hcopied.of_components (FilePath.same_iff.mp hsame).symm, hfile⟩)
    · rw [hkept]
      refine (h.nodes q).imp_right fun hq => hq.imp_right ?_
      rintro ⟨hnone, hdir, copy, bytes, hcopy, hfind, habove⟩
      exact ⟨hnone, hdir, copy, bytes, hcopy, find?_copied hnodup hcopied hcopy hfind, habove⟩
    · have hbefore : before.find? q = none := by
        rcases h.nodes q with hsame | ⟨_, -, hfile⟩ | ⟨hnone, -⟩
        · exact hsame.symm.trans hnone
        · cases hnone.symm.trans hfile
        · exact hnone
      have hthere : (t.addFile path contents).find? path = some (.file contents) := by
        rw [Tree.addFile, Tree.find?_put, if_pos (FilePath.same_iff.mpr rfl)]
      exact .inr (.inr ⟨hbefore, hdir, path, contents, hcopied, hthere, habove, hother⟩)

end Copying

/-! ### What comes of copying -/

/-- There is a copy to be made to a path that is marked as failing. -/
def Refused (before : Tree) (destination : FilePath) (dirs : List FilePath) : Prop :=
  ∃ path contents, Copied before destination dirs path contents ∧ before.fails path = true

/-- What comes of a part of copying: if it goes well, `Q` is true of the files. It fails only if
there is a path marked as failing. -/
def Brings (before : Tree) (destination : FilePath) (dirs : List FilePath) {α : Type}
    (x : FileAction Tree α) (Q : Tree → Prop) : Prop :=
  ∀ ws ws' r, Copying before destination dirs ws.files → x.run.run ws = some (r, ws') →
    Copying before destination dirs ws'.files ∧
      ((∃ a, r = .ok a) ∧ Q ws'.files ∨
        (∃ failure, r = .error failure) ∧ Refused before destination dirs)

namespace Brings

variable {α β : Type} {x : FileAction Tree α} {f : α → FileAction Tree β} {Q Q' : Tree → Prop}

theorem mono (h : Brings before destination dirs x Q)
    (himp : ∀ t, Copying before destination dirs t → Q t → Q' t) :
    Brings before destination dirs x Q' := by
  intro ws ws' r hws hrun
  obtain ⟨hcopying, hend⟩ := h ws ws' r hws hrun
  exact ⟨hcopying, hend.imp_left fun ⟨hok, hq⟩ => ⟨hok, himp _ hcopying hq⟩⟩

theorem pure (a : α) : Brings before destination dirs (Pure.pure a) fun _ => True := by
  intro ws ws' r hws hrun
  cases hrun
  exact ⟨hws, .inl ⟨⟨a, rfl⟩, trivial⟩⟩

/-- What the first part has brought has to be there after the second part. -/
theorem bind (hx : Brings before destination dirs x Q)
    (hf : ∀ a, Brings before destination dirs (f a) Q')
    (hkeeps : ∀ a, Keeps (fun t => Copying before destination dirs t ∧ Q t) (f a)) :
    Brings before destination dirs (x >>= f) fun t => Q t ∧ Q' t := by
  intro ws ws' r hws hrun
  rw [run_bind] at hrun
  obtain ⟨⟨answer, ws₁⟩, hfirst, hsecond⟩ := Option.bind_eq_some_iff.mp hrun
  obtain ⟨hcopying, ⟨⟨a, rfl⟩, hq⟩ | ⟨⟨failure, rfl⟩, hrefused⟩⟩ := hx ws ws₁ answer hws hfirst
  · obtain ⟨hcopying', hend⟩ := hf a ws₁ ws' r hcopying hsecond
    exact ⟨hcopying', hend.imp_left fun ⟨hok, hq'⟩ =>
      ⟨hok, (hkeeps a ⟨hcopying, hq⟩ hsecond).2, hq'⟩⟩
  · cases hsecond
    exact ⟨hcopying, .inr ⟨⟨failure, rfl⟩, hrefused⟩⟩

/-- Notes are not among the files. -/
theorem note_bind {f : Unit → FileAction Tree β} (hf : Brings before destination dirs (f ()) Q)
    (severity : Journal.Severity) (origin : Journal.Origin) (message : String)
    (fields : List (String × String)) :
    Brings before destination dirs (FileAction.note severity origin message fields >>= f) Q := by
  intro ws ws' r hws hrun
  rw [run_bind, run_note, Option.bind_some] at hrun
  exact hf (ws.note ⟨severity, origin, message, fields⟩) ws' r hws hrun

/-- An activity goes on with what was answered from the files that it has. -/
theorem ask_bind {question : Tree → α}
    (hf : ∀ t, Copying before destination dirs t →
      Brings before destination dirs (f (question t)) Q) :
    Brings before destination dirs (ask question >>= f) Q := by
  intro ws ws' r hws hrun
  rw [run_bind, run_ask, Option.bind_some] at hrun
  exact hf ws.files hws ws ws' r hws hrun

theorem tryAsk_bind {question : Tree → Except FileFault α}
    (hf : ∀ t, Copying before destination dirs t →
      ∃ a, question t = .ok a ∧ Brings before destination dirs (f a) Q) :
    Brings before destination dirs (tryAsk question >>= f) Q := by
  intro ws ws' r hws hrun
  obtain ⟨a, ha, hbrings⟩ := hf ws.files hws
  rw [run_bind, run_tryAsk, Option.bind_some, ha] at hrun
  exact hbrings ws ws' r hws hrun

/-- A change is made, or there is a reason why it is not. -/
theorem change {change : Change Tree Unit}
    (h : ∀ t, Copying before destination dirs t →
      (∃ next, change.run.run t = (.ok (), next) ∧ Copying before destination dirs next ∧ Q next) ∨
        (∃ fault, change.run.run t = (.error fault, t)) ∧ Refused before destination dirs) :
    Brings before destination dirs (FileAction.change change) Q := by
  intro ws ws' r hws hrun
  rw [run_change] at hrun
  rcases h ws.files hws with ⟨next, hnext, hcopying, hq⟩ | ⟨⟨fault, hfault⟩, hrefused⟩
  · rw [hnext] at hrun
    cases hrun
    exact ⟨hcopying, .inl ⟨⟨(), rfl⟩, hq⟩⟩
  · rw [hfault] at hrun
    cases hrun
    exact ⟨hws, .inr ⟨⟨_, rfl⟩, hrefused⟩⟩

end Brings

/-! ### What has been brought -/

section
variable {root target dir entry : FilePath}

/-- A directory that is copied, and its target. -/
structure Source (before : Tree) (destination : FilePath) (dirs : List FilePath)
    (root target : FilePath) : Prop where
  mem : root ∈ dirs
  isDir : before.find? root = some .dir
  named : ∃ name, root.fileName = some name ∧ target = destination.child name

/-- All copies from `dir`, a directory in `root`, have been made, and none of their paths is marked
as failing. -/
def Brought (before : Tree) (root target dir : FilePath) (t : Tree) : Prop :=
  ∀ source rest contents path, dir.components <+: source.components →
    source.components = root.components ++ rest → before.find? source = some (.file contents) →
    path.components = target.components ++ rest →
    t.find? path = some (.file contents) ∧ before.fails path = false

/-- A file of `root` is to be copied to the same place below the target. -/
theorem Source.copied (h : Source before destination dirs root target) {source path : FilePath}
    {rest : List Component} {contents : Bytes}
    (hsource : source.components = root.components ++ rest)
    (hfile : before.find? source = some (.file contents))
    (hpath : path.components = target.components ++ rest) :
    Copied before destination dirs path contents := by
  obtain ⟨name, hname, rfl⟩ := h.named
  exact ⟨root, h.mem, name, hname, h.isDir, source, rest, hsource, hfile, hpath⟩

/-- The way to where a file is copied. -/
theorem Source.components_join (h : Source before destination dirs root target)
    {relative : FilePath} (hrelative : entry.relativeTo? root = some relative) :
    ∃ rest, entry.components = root.components ++ rest ∧
      (target.join relative).components = target.components ++ rest := by
  obtain ⟨name, hname, rfl⟩ := h.named
  obtain ⟨hroot, htarget⟩ := components_ne_nil_of_fileName hname destination
  obtain ⟨hrooted, hsteps⟩ := FilePath.relativeTo?_steps hroot hrelative
  exact ⟨_, hsteps, FilePath.components_join (FilePath.isEmpty_of_components htarget) hrooted⟩

/-- What has been brought stays. -/
theorem Brought.addFile (hnodup : (dirs.map FilePath.fileName).Nodup)
    (h : Source before destination dirs root target) (hbrought : Brought before root target dir t)
    {path : FilePath} {contents : Bytes}
    (hcopied : Copied before destination dirs path contents) :
    Brought before root target dir (t.addFile path contents) := by
  intro source rest kept copy hbelow hsource hfile hcopy
  obtain ⟨hthere, hfails⟩ := hbrought source rest kept copy hbelow hsource hfile hcopy
  exact ⟨Copying.find?_copied hnodup hcopied (h.copied hsource hfile hcopy) hthere, hfails⟩

section
variable (hapart : Apart destination dirs) (hnodup : (dirs.map FilePath.fileName).Nodup)
  (hclosed : before.Closed)
include hapart hnodup

/-- Copying a directory keeps what each copy keeps. -/
theorem copyKeeps_copying (h : Source before destination dirs root target) {J : Tree → Prop}
    (hJ : ∀ t path contents, J t → Copied before destination dirs path contents →
      J (t.addFile path contents)) :
    CopyKeeps (fun t : Tree => Copying before destination dirs t ∧ J t)
      (fun path => root.components <+: path.components) root target where
  list t dir entries _ hdir hlist entry hentry := by
    obtain ⟨-, step, hstep⟩ := Tree.mem_of_list hlist entry hentry
    rw [hstep]
    exact hdir.trans (List.prefix_append _ _)
  copy t entry relative ht hentry hrelative := by
    obtain ⟨rest, hsteps, hpath⟩ := h.components_join hrelative
    show (fun t : Tree => Copying before destination dirs t ∧ J t)
      ((Tree.change (·.copyFile entry (target.join relative))).run.run t).2
    cases hcopy : t.copyFile entry (target.join relative) with
    | error fault =>
        rw [Tree.run_change_error hcopy]
        exact ht
    | ok next =>
        rw [Tree.run_change_ok hcopy]
        obtain ⟨contents, hfile, rfl⟩ := Tree.copyFile_cases hcopy
        rw [ht.1.find?_source hapart h.mem hentry] at hfile
        have hcopied := h.copied hsteps hfile hpath
        exact ⟨ht.1.addFile hnodup hcopied, hJ t _ contents ht.2 hcopied⟩

include hclosed

omit hapart hnodup in
/-- Below a file there is nothing. -/
theorem components_of_isFile {source : FilePath} {contents : Bytes}
    (hfile : before.find? entry = some (.file contents))
    (hbelow : entry.components <+: source.components) (hentry : entry.components ≠ [])
    (hstored : (before.find? source).isSome = true) : source.components = entry.components := by
  by_contra hother
  have hsame : entry.same source = false := by
    rw [← Bool.not_eq_true, FilePath.same_iff]
    exact fun heq => hother heq.symm
  have hdir := hclosed source entry hstored hentry (FilePath.isAtOrBelow_iff.mpr hbelow) hsame
  cases hfile.symm.trans hdir

/-- The copy of a file. -/
theorem brings_copyFile (h : Source before destination dirs root target)
    {relative : FilePath} {contents : Bytes} (hbelow : root.components <+: entry.components)
    (hrelative : entry.relativeTo? root = some relative)
    (hfile : before.find? entry = some (.file contents)) :
    Brings before destination dirs
      (FileAction.change (FileStore.copyFile entry (target.join relative)))
      (Brought before root target entry) := by
  obtain ⟨rest, hsteps, hpath⟩ := h.components_join hrelative
  have hcopied := h.copied hsteps hfile hpath
  refine Brings.change fun t ht => ?_
  have hsource := (ht.find?_source hapart h.mem hbelow).trans hfile
  have hfails : t.fails (target.join relative) = before.fails (target.join relative) := by
    rw [Tree.fails, Tree.fails, ht.failing]
  cases hfailing : before.fails (target.join relative) with
  | true =>
      have hcopy : t.copyFile entry (target.join relative) =
          .error (.injected (target.join relative)) := by
        rw [Tree.copyFile, hfails, if_pos hfailing]
      exact .inr ⟨⟨_, Tree.run_change_error hcopy⟩, _, contents, hcopied, hfailing⟩
  | false =>
      have hcopy : t.copyFile entry (target.join relative) =
          .ok (t.addFile (target.join relative) contents) := by
        simp [Tree.copyFile, Tree.readBytes, hfails, hfailing, hsource, Except.map]
      refine .inl ⟨_, Tree.run_change_ok hcopy, ht.addFile hnodup hcopied, ?_⟩
      intro source more kept path hentry hmore hkept hplace
      obtain ⟨name, hname, -⟩ := h.named
      have hnonempty : entry.components ≠ [] := by
        rw [hsteps]
        exact List.append_ne_nil_of_left_ne_nil
          (components_ne_nil_of_fileName hname destination).1 _
      have hsame := components_of_isFile hclosed hfile hentry hnonempty (by rw [hkept]; rfl)
      -- So this is the file itself, and its copy.
      have hrest : more = rest :=
        List.append_cancel_left (hmore.symm.trans (hsame.trans hsteps))
      cases (Tree.find?_of_components hfile hsame).symm.trans hkept
      have hthere : (target.join relative).same path = true :=
        FilePath.same_iff.mpr (by rw [hpath, hplace, hrest])
      refine ⟨?_, ?_⟩
      · rw [Tree.addFile, Tree.find?_put, if_pos hthere]
      · rw [← hfailing, Tree.fails, Tree.fails]
        congr 1
        funext marked
        exact (FilePath.same_congr_right hthere marked).symm

/-- An entry of a directory is a directory, or a file that is copied. -/
theorem brings_copyEntry (h : Source before destination dirs root target)
    {copyDir : FilePath → FileAction Tree Nat}
    (hcopyDir : before.find? entry = some .dir →
      Brings before destination dirs (copyDir entry) (Brought before root target entry))
    (hbelow : root.components <+: entry.components) (hstored : (before.find? entry).isSome = true) :
    Brings before destination dirs (copyEntry copyDir root target entry)
      (Brought before root target entry) := by
  unfold copyEntry
  obtain ⟨relative, hrelative⟩ := Option.isSome_iff_exists.mp
    (FilePath.relativeTo?_isSome (FilePath.isAtOrBelow_iff.mpr hbelow))
  rw [hrelative]
  refine Brings.ask_bind fun t ht => ?_
  have hsame := ht.find?_source hapart h.mem hbelow
  cases hdir : FileStore.isDir t entry with
  | true => exact hcopyDir (hsame.symm.trans (of_decide_eq_true hdir))
  | false =>
      cases hnode : before.find? entry with
      | none => simp [hnode] at hstored
      | some node =>
          cases node with
          | dir => exact absurd (hsame.trans hnode) (of_decide_eq_false hdir)
          | file contents =>
              exact ((brings_copyFile hapart hnodup hclosed h hbelow hrelative hnode).bind
                (fun _ => .pure 1) fun _ => keeps_pure 1).mono fun _ _ hq => hq.1

omit hclosed in
/-- All entries are copied, one after the other. -/
theorem brings_copyEntries (h : Source before destination dirs root target) {depth : Nat}
    {entries : List FilePath}
    (hentries : ∀ entry ∈ entries, root.components <+: entry.components ∧
      Brings before destination dirs
        (copyEntry (fun entry => copyTree depth root entry target) root target entry)
        (Brought before root target entry)) :
    Brings before destination dirs
      (copyEntries (fun entry => copyTree depth root entry target) root target entries)
      fun t => ∀ entry ∈ entries, Brought before root target entry t := by
  induction entries with
  | nil => exact (Brings.pure 0).mono fun _ _ _ => List.forall_mem_nil _
  | cons entry rest ih =>
      obtain ⟨hfirst, hrest⟩ := List.forall_mem_cons.mp hentries
      have hkeeps := copyKeeps_copying hapart hnodup h
        (J := Brought before root target entry) fun _ _ _ hq => hq.addFile hnodup h
      have hkept : Keeps (fun t => Copying before destination dirs t ∧
          Brought before root target entry t)
          (copyEntries (fun entry => copyTree depth root entry target) root target rest) :=
        keeps_copyEntries hkeeps (fun _ => keeps_copyTree hkeeps depth)
          fun other hother => (hrest other hother).1
      rw [copyEntries_cons]
      refine ((hfirst.2.bind (fun copied => (ih hrest).bind (fun more => .pure (copied + more))
        fun _ => keeps_pure _) fun copied => hkept.bind fun _ => keeps_pure _)).mono ?_
      exact fun t _ hq => List.forall_mem_cons.mpr ⟨hq.1, hq.2.1⟩

omit hnodup in
/-- One of the entries of a directory leads to each file below. -/
theorem exists_entry (ht : Copying before destination dirs t) (hroot : root ∈ dirs)
    (hbelow : root.components <+: dir.components) (hdir : before.find? dir = some .dir)
    {entries : List FilePath} (hlist : t.list dir = .ok entries) {source : FilePath}
    {contents : Bytes} (hsource : dir.components <+: source.components)
    (hfile : before.find? source = some (.file contents)) (hnonempty : dir.components ≠ []) :
    ∃ entry ∈ entries, entry.components <+: source.components := by
  obtain ⟨more, hmore⟩ := hsource
  cases more with
  | nil =>
      rw [List.append_nil] at hmore
      cases (Tree.find?_of_components hdir hmore.symm).symm.trans hfile
  | cons step rest =>
      have hsteps : source.components = (dir.components ++ [step]) ++ rest := by
        rw [← hmore, List.append_assoc]
        rfl
      obtain ⟨q, hq⟩ := FilePath.exists_components hsteps (by simp)
      have hprefix : q.components <+: source.components := by
        rw [hq, hsteps]
        exact List.prefix_append _ _
      have hstored : (before.find? q).isSome = true := by
        cases hsame : q.same source with
        | true => rw [Tree.find?_congr hsame, hfile]; rfl
        | false =>
            rw [hclosed source q (by rw [hfile]; rfl) (by simp [hq])
              (FilePath.isAtOrBelow_iff.mpr hprefix) hsame]
            rfl
      have hdown : root.components <+: q.components :=
        hq ▸ hbelow.trans (List.prefix_append _ _)
      rw [← ht.find?_source hapart hroot hdown] at hstored
      obtain ⟨entry, hentry, hthere⟩ := Tree.exists_mem_list hlist hnonempty hstored hq
      exact ⟨entry, hentry, hthere.trans hq.symm ▸ hprefix⟩

/-- A directory is copied. By induction on the depth: its entries are one level further down. -/
theorem brings_copyTree (h : Source before destination dirs root target) (depth : Nat)
    (hbelow : root.components <+: dir.components) (hdir : before.find? dir = some .dir) :
    Brings before destination dirs (copyTree depth root dir target)
      (Brought before root target dir) := by
  induction depth generalizing dir with
  | zero =>
      intro ws ws' r _ hrun
      cases hrun
  | succ depth ih =>
      rw [copyTree]
      refine Brings.tryAsk_bind fun t ht => ?_
      have hthere := (ht.find?_source hapart h.mem hbelow).trans hdir
      have hlist : ∃ entries, FileStore.list t dir = .ok entries := ⟨_, if_pos hthere⟩
      obtain ⟨entries, hlist⟩ := hlist
      refine ⟨entries, hlist, ?_⟩
      refine (brings_copyEntries hapart hnodup h fun entry hentry => ?_).mono ?_
      · obtain ⟨hstored, step, hstep⟩ := Tree.mem_of_list hlist entry hentry
        have hdown : root.components <+: entry.components :=
          hstep ▸ hbelow.trans (List.prefix_append _ _)
        rw [ht.find?_source hapart h.mem hdown] at hstored
        exact ⟨hdown, brings_copyEntry hapart hnodup hclosed h (ih hdown) hdown hstored⟩
      · intro t' _ hentries source rest contents path hsource hsteps hfile hpath
        obtain ⟨name, hname, -⟩ := h.named
        have hnonempty : dir.components ≠ [] := fun hnil =>
          (components_ne_nil_of_fileName hname destination).1
            (List.prefix_nil.mp (hnil ▸ hbelow))
        obtain ⟨entry, hentry, hdown⟩ := exists_entry hapart hclosed ht h.mem hbelow hdir hlist
          hsource hfile hnonempty
        exact hentries entry hentry source rest contents path hdown hsteps hfile hpath

section
variable {pairs : List (FilePath × FilePath)}
  (hpairs : ∀ pair ∈ pairs, pair.1 ∈ dirs ∧
    ∃ name, pair.1.fileName = some name ∧ pair.2 = destination.child name)
include hpairs

omit hclosed in
/-- Copying all directories keeps what each copy keeps. -/
theorem keeps_copyAll_copying (depth : Nat) {J : Tree → Prop}
    (hJ : ∀ t path contents, J t → Copied before destination dirs path contents →
      J (t.addFile path contents)) :
    Keeps (fun t => Copying before destination dirs t ∧ J t) (copyAll depth pairs) := by
  induction pairs with
  | nil => exact keeps_pure ()
  | cons pair rest ih =>
      obtain ⟨⟨hmem, hnamed⟩, hrest⟩ := List.forall_mem_cons.mp hpairs
      rw [copyAll]
      refine keeps_ask_bind fun t ht => ?_
      cases hisDir : FileStore.isDir t pair.1 with
      | true =>
          have hsame := ht.1.find?_source hapart hmem (List.prefix_refl _)
          have h : Source before destination dirs pair.1 pair.2 :=
            ⟨hmem, hsame.symm.trans (of_decide_eq_true hisDir), hnamed⟩
          have hcopy := copyKeeps_copying hapart hnodup h hJ
          refine (keeps_copyTree hcopy depth (List.prefix_refl _)).bind fun copied => ?_
          exact (keeps_note ..).bind fun _ => ih hrest
      | false => exact (keeps_note ..).bind fun _ => ih hrest

/-- All directories are copied, one after the other. Those that are none are passed over. -/
theorem brings_copyAll (depth : Nat) :
    Brings before destination dirs (copyAll depth pairs) fun t => ∀ pair ∈ pairs,
      before.find? pair.1 = some .dir → Brought before pair.1 pair.2 pair.1 t := by
  induction pairs with
  | nil => exact (Brings.pure ()).mono fun _ _ _ => List.forall_mem_nil _
  | cons pair rest ih =>
      obtain ⟨⟨hmem, hnamed⟩, hrest⟩ := List.forall_mem_cons.mp hpairs
      rw [copyAll]
      refine Brings.ask_bind fun t ht => ?_
      have hsame := ht.find?_source hapart hmem (List.prefix_refl _)
      cases hisDir : FileStore.isDir t pair.1 with
      | true =>
          have h : Source before destination dirs pair.1 pair.2 :=
            ⟨hmem, hsame.symm.trans (of_decide_eq_true hisDir), hnamed⟩
          have hkept := keeps_copyAll_copying hapart hnodup hrest depth
            (J := Brought before pair.1 pair.2 pair.1) fun _ _ _ hq => hq.addFile hnodup h
          have htree :=
            brings_copyTree hapart hnodup hclosed h depth (List.prefix_refl _) h.isDir
          refine ((htree.bind fun copied => Brings.note_bind (ih hrest) _ _ _ _) fun copied =>
            (keeps_note ..).bind fun _ => hkept).mono fun t' _ hq => ?_
          exact List.forall_mem_cons.mpr ⟨fun _ => hq.1, hq.2⟩
      | false =>
          refine (Brings.note_bind (ih hrest) _ _ _ _).mono fun t' _ hq => ?_
          refine List.forall_mem_cons.mpr ⟨fun hdir => ?_, hq⟩
          exact absurd (hsame.trans hdir) (of_decide_eq_false hisDir)

end

end

end

/-! ### The whole -/

/-- What copying directories back comes to, where each has a target.

- `succeeds`: it succeeds unless a path that a file is to be copied to is marked as failing;
- `copied`: if it does, each file has been copied;
- `copying`: in any case what there is at a path is what there was, or the copy that is to be
  there, or a new directory above a copy. -/
structure Mirrored (before after : Tree) (destination : FilePath) (dirs : List FilePath)
    (r : Except Failure Unit) : Prop where
  succeeds : (∃ a, r = .ok a) ↔ ∀ path contents,
    Copied before destination dirs path contents → before.fails path = false
  copied : (∃ a, r = .ok a) → ∀ path contents,
    Copied before destination dirs path contents → after.find? path = some (.file contents)
  copying : Copying before destination dirs after

/-- If the destination is apart from the directories, copying them ends. -/
theorem copyAll_ends_of_apart (hapart : Apart destination dirs)
    {pairs : List (FilePath × FilePath)}
    (hpairs : ∀ pair ∈ pairs, pair.1 ∈ dirs ∧
      ∃ name, pair.1.fileName = some name ∧ pair.2 = destination.child name)
    (ws : Workspace Tree) : ∃ depth r ws', (copyAll depth pairs).run.run ws = some (r, ws') := by
  refine copyAll_ends (fun pair hpair => ?_) ws
  obtain ⟨hmem, name, hname, htarget⟩ := hpairs pair hpair
  rw [htarget]
  refine fun ws => copyTree_ends_of_outside hname fun hinside => ?_
  have hbelow := (hapart pair.1 hmem name hname pair.1 hmem).1
  rw [← Bool.not_eq_true, FilePath.isAtOrBelow_iff, components_target hname] at hbelow
  exact absurd (hinside.trans (List.prefix_append _ _)) hbelow

/-- Copying directories back in memory, where the destination is apart from them. If one has no
final name, or two have the same, it fails and nothing changes. Otherwise it ends, and copies are
exact. -/
theorem into_mirrors (ws : Workspace Tree) (destination : FilePath) (dirs : List FilePath)
    (hclosed : ws.files.Closed) (hapart : Apart destination dirs) :
    ((∃ dir ∈ dirs, dir.fileName = none) ∨ ¬(dirs.map FilePath.fileName).Nodup →
      ∀ depth, ∃ failure,
        (CopyBack.into depth destination dirs).run.run ws = some (.error failure, ws)) ∧
    ((∀ dir ∈ dirs, dir.fileName ≠ none) → (dirs.map FilePath.fileName).Nodup →
      ∃ bound r ws',
        (∀ depth, bound ≤ depth →
          (CopyBack.into depth destination dirs).run.run ws = some (r, ws')) ∧
        Mirrored ws.files ws'.files destination dirs r) := by
  unfold CopyBack.into
  constructor
  · intro hwrong depth
    cases htargets : copyTargets destination [] dirs with
    | error refusal => exact ⟨_, rfl⟩
    | ok targets =>
        obtain ⟨hnames, hnodup, -⟩ := copyTargets_ok_iff.mp ⟨targets, htargets⟩
        rcases hwrong with ⟨dir, hdir, hnone⟩ | hsame
        · exact absurd hnone (hnames dir hdir)
        · exact absurd hnodup hsame
  · intro hnames hnodup
    obtain ⟨targets, htargets⟩ : ∃ targets, copyTargets destination [] dirs = .ok targets :=
      copyTargets_ok_iff.mpr ⟨hnames, hnodup, fun _ _ _ hmem => by cases hmem⟩
    have hpairs := child_of_copyTargets htargets
    obtain ⟨bound, r, ws', hrun⟩ := copyAll_ends_of_apart hapart hpairs ws
    rw [htargets]
    refine ⟨bound, r, ws', fun depth hdepth => copyAll_refines hdepth _ hrun, ?_⟩
    obtain ⟨hcopying, hend⟩ := brings_copyAll hapart hnodup hclosed hpairs bound ws ws' r
      (.refl _ _ _) hrun
    rcases hend with ⟨hok, hbrought⟩ | ⟨⟨failure, rfl⟩, path, contents, hcopied, hfails⟩
    · have hthere : ∀ path contents, Copied ws.files destination dirs path contents →
          ws'.files.find? path = some (.file contents) ∧ ws.files.fails path = false := by
        rintro path contents ⟨dir, hdir, name, hname, hisDir, source, rest, hsource, hfile, hpath⟩
        obtain ⟨target, hpair⟩ := mem_zip_of_copyTargets htargets dir hdir
        obtain ⟨-, other, hother, htarget⟩ := hpairs _ hpair
        cases hname.symm.trans hother
        exact hbrought _ hpair hisDir source rest contents path
          (hsource ▸ List.prefix_append _ _) hsource hfile (htarget ▸ hpath)
      exact ⟨iff_of_true hok fun path contents h => (hthere path contents h).2,
        fun _ path contents h => (hthere path contents h).1, hcopying⟩
    · have hfailed : ¬∃ a, (.error failure : Except Failure Unit) = .ok a := by simp
      refine ⟨iff_of_false hfailed fun hnone => ?_, fun hok => absurd hok hfailed, hcopying⟩
      rw [hnone path contents hcopied] at hfails
      cases hfails

/-- Whether there are directories only above what there is can be told from the entries. -/
theorem Tree.closed_of_nodes
    (h : ∀ entry ∈ t.nodes, ∀ steps ∈ entry.1.components.inits, steps ≠ [] →
      steps ≠ entry.1.components →
      (t.nodes.find? fun other => other.1.components = steps).map (·.2) = some .dir) :
    t.Closed := by
  intro q above hq habove hbelow hother
  obtain ⟨entry, hentry, hsame⟩ := Tree.find?_isSome_iff.mp hq
  rw [FilePath.isAtOrBelow_iff, ← FilePath.same_iff.mp hsame] at hbelow
  rw [← Bool.not_eq_true, FilePath.same_iff, ← FilePath.same_iff.mp hsame] at hother
  exact h entry hentry above.components ((List.mem_inits _ _).mpr hbelow) habove hother

/-- A directory with a directory in it is copied, and one that is not there is passed over. -/
theorem into_mirrors_nested : ∃ bound ws', (∀ depth, bound ≤ depth →
      (CopyBack.into depth "/d" ["/s", "/r"]).run.run ⟨nestedTree, []⟩ = some (.ok (), ws')) ∧
    ws'.files.find? "/d/s/s/f" = some (.file [2]) := by
  have hclosed : nestedTree.Closed := Tree.closed_of_nodes (by decide +kernel)
  have hapart : Apart "/d" ["/s", "/r"] := by
    have htargets : ∀ dir ∈ (["/s", "/r"] : List FilePath),
        ∀ name ∈ dir.fileName.toList, ∀ source ∈ (["/s", "/r"] : List FilePath),
          (FilePath.child "/d" name).isAtOrBelow source = false ∧
            source.isAtOrBelow (FilePath.child "/d" name) = false := by decide +kernel
    exact fun dir hdir name hname => htargets dir hdir name (by simp [hname])
  have hcopied : Copied nestedTree "/d" ["/s", "/r"] "/d/s/s/f" [2] :=
    ⟨"/s", List.mem_cons_self, ['s'], by decide +kernel, by decide +kernel, "/s/s/f",
      [.name ['s'], .name ['f']], by decide +kernel, by decide +kernel, by decide +kernel⟩
  obtain ⟨-, hmirrors⟩ := into_mirrors ⟨nestedTree, []⟩ "/d" ["/s", "/r"] hclosed hapart
  obtain ⟨bound, r, ws', hrun, hmirrored⟩ := hmirrors (by decide +kernel) (by decide +kernel)
  have hfailing : nestedTree.failing = [] := by decide +kernel
  obtain ⟨⟨⟩, rfl⟩ := hmirrored.succeeds.mpr fun path _ _ => by simp [Tree.fails, hfailing]
  exact ⟨bound, ws', hrun, hmirrored.copied ⟨(), rfl⟩ _ _ hcopied⟩

end CaseRunner.Files
