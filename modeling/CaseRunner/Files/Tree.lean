import CaseRunner.Files.Store

/-!
# `CaseRunner.Files.Tree`: files in memory

A tree is a list of paths in order, each with a file or a directory. Paths that differ in
spelling only are one entry, and its first spelling is kept. The order is part of the tree, so
what makes a tree shows that it stays (`insert_inOrder`). Putting a file at a path also puts
directories at all paths above it where there is nothing yet; it never turns a file into a
directory.

Some paths can be marked as failing. A change at such a path fails. Every change that
fails leaves the tree as it was.
-/

set_option autoImplicit false

namespace CaseRunner.Files

/-- What there is at a path. -/
inductive Node where
  /-- A file with its contents. -/
  | file (contents : Bytes)
  /-- A directory. -/
  | dir
  deriving DecidableEq, Repr

/-- The contents, if it is a file. -/
def Node.contents? : Node → Option Bytes
  | .file contents => some contents
  | .dir => none

/-- Whether it is a file. -/
def Node.isFile (node : Node) : Bool := node.contents?.isSome

namespace Tree

/-! ### Entries -/

variable {path : FilePath} {node : Node} {nodes : List (FilePath × Node)}

/-- The paths are in order, each one once. -/
def InOrder (nodes : List (FilePath × Node)) : Prop :=
  nodes.Pairwise fun a b => a.1.isBefore b.1 = true

/-- What there is at a path in a list of entries. -/
def lookup (path : FilePath) (nodes : List (FilePath × Node)) : Option Node :=
  (nodes.find? fun entry => entry.1.same path).map (·.2)

/-- Puts something at a path, in place of what was there or else in order. -/
def insert (path : FilePath) (node : Node) : List (FilePath × Node) → List (FilePath × Node)
  | [] => [(path, node)]
  | entry :: rest =>
    if entry.1.same path then (entry.1, node) :: rest
    else if path.isBefore entry.1 then (path, node) :: entry :: rest
    else entry :: insert path node rest

theorem mem_insert {entry : FilePath × Node} (h : entry ∈ insert path node nodes) :
    entry.1 = path ∨ ∃ old ∈ nodes, old.1 = entry.1 := by
  induction nodes with
  | nil => exact .inl (by rw [List.mem_singleton.mp h])
  | cons first rest ih =>
      rw [insert] at h
      split at h
      · rcases List.mem_cons.mp h with rfl | h
        · exact .inr ⟨first, List.mem_cons_self, rfl⟩
        · exact .inr ⟨entry, List.mem_cons_of_mem _ h, rfl⟩
      · split at h
        · rcases List.mem_cons.mp h with rfl | h
          · exact .inl rfl
          · exact .inr ⟨entry, h, rfl⟩
        · rcases List.mem_cons.mp h with rfl | h
          · exact .inr ⟨entry, List.mem_cons_self, rfl⟩
          · exact (ih h).imp_right fun ⟨old, hold, heq⟩ => ⟨old, List.mem_cons_of_mem _ hold, heq⟩

theorem insert_inOrder (h : InOrder nodes) : InOrder (insert path node nodes) := by
  induction nodes with
  | nil => exact List.pairwise_singleton _ _
  | cons first rest ih =>
      obtain ⟨hfirst, hrest⟩ := List.pairwise_cons.mp h
      rw [insert]
      split
      · exact List.pairwise_cons.mpr ⟨hfirst, hrest⟩
      · rename_i hother
        split
        · rename_i hbefore
          refine List.pairwise_cons.mpr ⟨fun entry hentry => ?_, h⟩
          rcases List.mem_cons.mp hentry with rfl | hentry
          · exact hbefore
          · exact FilePath.isBefore_trans hbefore (hfirst entry hentry)
        · rename_i hafter
          refine List.pairwise_cons.mpr ⟨fun entry hentry => ?_, ih hrest⟩
          rcases mem_insert hentry with heq | ⟨old, hold, heq⟩
          · rw [heq]
            exact FilePath.isBefore_of_not (fun hsame => hother (by
              rwa [FilePath.same_iff, eq_comm, ← FilePath.same_iff])) hafter
          · rw [← heq]
            exact hfirst old hold

end Tree

/-- Files and directories in memory. -/
structure Tree where
  /-- The paths in order, and what there is. -/
  nodes : List (FilePath × Node)
  /-- The paths at which changes fail. -/
  failing : List FilePath
  /-- Every path stands before those that follow it. -/
  ordered : Tree.InOrder nodes
  deriving DecidableEq, Repr

namespace Tree

/-! ### What a tree can be asked, and its changes -/

/-- The tree without anything. -/
def empty : Tree := ⟨[], [], .nil⟩

/-- What there is at a path. -/
def find? (t : Tree) (path : FilePath) : Option Node := lookup path t.nodes

/-- Puts something at a path. -/
def put (t : Tree) (path : FilePath) (node : Node) : Tree :=
  { t with nodes := insert path node t.nodes, ordered := insert_inOrder t.ordered }

/-- Puts a directory at a path where there is nothing. -/
def addDirAt (t : Tree) (path : FilePath) : Tree :=
  match t.find? path with
  | some _ => t
  | none => t.put path .dir

/-- The path and those above it, as far as they name anything. -/
def lineage (path : FilePath) : List FilePath := path.ancestors.takeWhile fun p => !p.isEmpty

/-- Puts directories at a path and at those above it where there is nothing. -/
def addDirs (t : Tree) (path : FilePath) : Tree := (lineage path).foldl addDirAt t

/-- Puts a file at a path, and directories above it where there is nothing. -/
def addFile (t : Tree) (path : FilePath) (contents : Bytes) : Tree :=
  let t := match path.parent? with
    | some parent => t.addDirs parent
    | none => t
  t.put path (.file contents)

/-- Marks a path as failing. -/
def failOn (t : Tree) (path : FilePath) : Tree := { t with failing := path :: t.failing }

/-- Whether changes at a path fail. -/
def fails (t : Tree) (path : FilePath) : Bool := t.failing.any (·.same path)

/-- The files in order. -/
def files (t : Tree) : List (FilePath × Bytes) :=
  t.nodes.filterMap fun entry => entry.2.contents?.map fun contents => (entry.1, contents)

/-- The paths of the files in order. -/
def filePaths (t : Tree) : List FilePath := t.files.map (·.1)

/-- The contents of the file at a path. -/
def readBytes (t : Tree) (path : FilePath) : Except FileFault Bytes :=
  match t.find? path with
  | some (.file contents) => .ok contents
  | some .dir => .error (.isDirectory path)
  | none => .error (.notFound path)

/-- The text in the file at a path. -/
def readText (t : Tree) (path : FilePath) : Except FileFault String := do
  let contents ← t.readBytes path
  (Text.decodeString contents).mapError (.notText path)

/-- A relative path is taken to begin at this directory. -/
def home : FilePath := "/work"

/-- The path from the root on. -/
def absolute (path : FilePath) : FilePath := if path.rooted then path else home.join path

/-- Whether `child` is directly in the directory at `path`. -/
def isIn (path child : FilePath) : Bool :=
  match child.parent? with
  | some parent => parent.same path
  | none => false

/-- The paths directly in the directory at a path. -/
def list (t : Tree) (path : FilePath) : Except FileFault (List FilePath) :=
  if t.find? path = some .dir then .ok ((t.nodes.map (·.1)).filter (isIn path))
  else .error (.notDirectory path)

/-- The tree with a directory at a path. -/
def createDir (t : Tree) (path : FilePath) : Except FileFault Tree :=
  if t.fails path then .error (.injected path)
  else if (t.find? path).any Node.isFile then .error (.isFile path)
  else .ok (t.addDirs path)

/-- The tree with nothing below a path. -/
def clearDir (t : Tree) (path : FilePath) : Except FileFault Tree :=
  if t.fails path then .error (.injected path)
  else if t.find? path = some .dir then
    .ok { t with
      nodes := t.nodes.filter fun (p, _) => p.same path || !p.isAtOrBelow path
      ordered := t.ordered.filter _ }
  else .error (.notDirectory path)

/-- The tree with the contents of one file also at another path. -/
def copyFile (t : Tree) (source target : FilePath) : Except FileFault Tree :=
  if t.fails target then .error (.injected target)
  else (t.readBytes source).map (t.addFile target)

/-- A change that leaves the tree as it was if it fails. -/
def change (step : Tree → Except FileFault Tree) : Change Tree Unit := fun t =>
  match step t with
  | .ok next => (.ok (), next)
  | .error fault => (.error fault, t)

end Tree

instance : FileStore Tree where
  readBytes := Tree.readBytes
  readText := Tree.readText
  isFile t path := (t.find? path).any Node.isFile
  isDir t path := t.find? path = some .dir
  absolute _ path := .ok (Tree.absolute path)
  list := Tree.list
  createDir path := Tree.change (·.createDir path)
  clearDir path := Tree.change (·.clearDir path)
  copyFile source target := Tree.change (·.copyFile source target)
  deposit path contents t := t.addFile path contents

end CaseRunner.Files
