import CaseRunner.Files.Fault

/-!
# `CaseRunner.Files.Store`: what the program needs of files

A store of files answers questions about paths and carries out changes. A change returns
the store afterwards even if it fails, since a failing change may be done in part.
-/

set_option autoImplicit false

namespace CaseRunner.Files

/-- A change of a store that may fail. -/
abbrev Change (σ : Type) (α : Type) := ExceptT FileFault (StateM σ) α

/-- Files and directories under paths. -/
class FileStore (σ : Type) where
  /-- The contents of a file. -/
  readBytes : σ → FilePath → Except FileFault Bytes
  /-- The contents of a file that is text. -/
  readText : σ → FilePath → Except FileFault String
  /-- Whether there is a file at the path. -/
  isFile : σ → FilePath → Bool
  /-- Whether there is a directory at the path. -/
  isDir : σ → FilePath → Bool
  /-- The path from the root on. -/
  absolute : σ → FilePath → Except FileFault FilePath
  /-- The paths of what a directory holds, in order. -/
  list : σ → FilePath → Except FileFault (List FilePath)
  /-- Creates a directory and those it is in. -/
  createDir : FilePath → Change σ Unit
  /-- Removes what a directory holds, and keeps the directory. -/
  clearDir : FilePath → Change σ Unit
  /-- Copies a file, and creates the directories it goes to. -/
  copyFile : FilePath → FilePath → Change σ Unit
  /-- Puts a file at a path, and creates the directories it is in. -/
  deposit : FilePath → Bytes → σ → σ

/-- Whether there is anything at the path. -/
def FileStore.exists {σ : Type} [FileStore σ] (files : σ) (path : FilePath) : Bool :=
  isFile files path || isDir files path

end CaseRunner.Files
