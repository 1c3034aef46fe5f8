import CaseRunner.Workspace

/-!
# `CaseRunner.Files.CopyBack`: artifacts are copied to where they last

What a run produces in its directories is copied to a destination, each directory under
its final name. Directories without a final name, or two of the same, are refused before
anything is copied. A directory that does not exist is passed over.

Copying goes through a directory entry by entry, as the entries are when the directory is
reached. If the destination is inside a directory that is copied, copies can turn up as
entries, and copying need not come to an end; so the depth is bounded.
-/

set_option autoImplicit false

namespace CaseRunner.Files

open FileAction

/-- A way to keep what is in directories. -/
abbrev CopyBack (σ : Type) := List FilePath → FileAction σ Unit

variable {σ : Type}

/-- Nothing is copied. -/
def CopyBack.skip : CopyBack σ := fun dirs =>
  note .debug .copyBack "artifact copy-back disabled"
    [("dirs", Text.bracketed (dirs.map FilePath.shown))]

/-- Copying fails for a reason of its own. -/
def CopyBack.broken (reason : String) : CopyBack σ := fun _ => throw (.other [reason])

/-- Nothing is copied, and nothing is said. -/
def CopyBack.silent : CopyBack σ := fun _ => return ()

/-- Why directories are not copied. -/
inductive CopyRefusal where
  /-- A directory has no final name. -/
  | noName (dir : FilePath)
  /-- A directory has the final name of one before it. -/
  | sameName (dir : FilePath) (name : Segment)
  deriving DecidableEq, Repr

/-- What the refusal is called. -/
def CopyRefusal.message : CopyRefusal → String
  | .noName dir => s!"cannot copy back {dir.shown}: it has no directory name"
  | .sameName dir name =>
    s!"cannot copy back {dir.shown}: another directory is also named "
      ++ Text.quoted (String.ofList name)

/-- Where each directory goes, given the names that are taken. -/
def copyTargets (destination : FilePath) (taken : List Segment) :
    List FilePath → Except CopyRefusal (List FilePath)
  | [] => .ok []
  | dir :: rest =>
    match dir.fileName with
    | none => .error (.noName dir)
    | some name =>
      if name ∈ taken then .error (.sameName dir name)
      else (copyTargets destination (name :: taken) rest).map (destination.child name :: ·)

variable [FileStore σ]

/-- Copies entries of a directory in `root`, those that are directories by `copyDir`, and counts
the files. -/
def copyEntries (copyDir : FilePath → FileAction σ Nat) (root target : FilePath) :
    List FilePath → FileAction σ Nat
  | [] => return 0
  | entry :: rest => do
    let some relative := entry.relativeTo? root
      | throw (FileFault.notBelow entry root).failure
    let copied ←
      if ← ask fun files => FileStore.isDir files entry then copyDir entry
      else do
        change (FileStore.copyFile entry (target.join relative))
        pure 1
    return copied + (← copyEntries copyDir root target rest)

/-- Copies what is in `dir`, a directory in `root`, to the same place in `target`, and
counts the files. -/
def copyTree (depth : Nat) (root dir target : FilePath) : FileAction σ Nat :=
  match depth with
  | 0 => unfinished
  | depth + 1 => do
    let entries ← tryAsk fun files => FileStore.list files dir
    copyEntries (fun entry => copyTree depth root entry target) root target entries

/-- Copies each directory to its target. -/
def copyAll (depth : Nat) : List (FilePath × FilePath) → FileAction σ Unit
  | [] => return ()
  | (dir, target) :: rest => do
    if ← ask fun files => FileStore.isDir files dir then
      let copied ← copyTree depth dir dir target
      note .info .copyBack "copied artifacts"
        [("from", dir.text), ("to", target.text), ("files", toString copied)]
    else
      note .debug .copyBack "nothing to copy back" [("dir", dir.text)]
    copyAll depth rest

/-- Directories are copied to a destination. -/
def CopyBack.into (depth : Nat) (destination : FilePath) : CopyBack σ := fun dirs =>
  match copyTargets destination [] dirs with
  | .error refusal => throw (.other [refusal.message])
  | .ok targets => copyAll depth (dirs.zip targets)

end CaseRunner.Files
