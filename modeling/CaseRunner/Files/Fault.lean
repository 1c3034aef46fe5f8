import CaseRunner.FilePath
import CaseRunner.Text.Utf8

/-!
# `CaseRunner.Files.Fault`: why an operation on files fails

A fault says what is wrong with a path, or what was being done when the operating system
refused. In the second case it has two parts, the task and the cause; `FileFault.chain`
lists them from the outside in.
-/

set_option autoImplicit false

namespace CaseRunner.Files

open CaseRunner.Text (Utf8Fault)

/-- Why the operating system refuses an operation. -/
inductive SystemFault where
  /-- There is no such file or directory. -/
  | noEntry
  /-- There is such an entry already. -/
  | entryExists
  /-- A directory is needed. -/
  | notDirectory
  /-- A file is needed. -/
  | isDirectory
  /-- A regular file is needed to copy from. -/
  | notRegular
  /-- The contents are no text. -/
  | notText
  /-- An empty path cannot be made absolute. -/
  | emptyPath
  /-- The operation is not permitted. -/
  | notPermitted
  /-- A name is longer than names may be. -/
  | nameTooLong
  /-- A path has the character that ends texts for the operating system. -/
  | zeroCharacter
  deriving DecidableEq, Repr

/-- What the operating system says. -/
def SystemFault.message : SystemFault → String
  | .noEntry => "No such file or directory (os error 2)"
  | .entryExists => "File exists (os error 17)"
  | .notDirectory => "Not a directory (os error 20)"
  | .isDirectory => "Is a directory (os error 21)"
  | .notRegular => "the source path is neither a regular file nor a symlink to a regular file"
  | .notText => "stream did not contain valid UTF-8"
  | .emptyPath => "cannot make an empty path absolute"
  | .notPermitted => "Permission denied (os error 13)"
  | .nameTooLong => "File name too long (os error 36)"
  | .zeroCharacter => "file name contained an unexpected NUL byte"

/-- What was being done with files. -/
inductive Task where
  /-- Reading all of a file as text. -/
  | readText (path : FilePath)
  /-- Opening a file. -/
  | openFile (path : FilePath)
  /-- Making a path absolute. -/
  | makeAbsolute (path : FilePath)
  /-- Creating a directory. -/
  | createDir (path : FilePath)
  /-- Listing a directory. -/
  | readDir (path : FilePath)
  /-- Copying a file. -/
  | copy (source target : FilePath)
  deriving DecidableEq, Repr

/-- What a task is called. -/
def Task.message : Task → String
  | .readText path => s!"reading file {path.shown}"
  | .openFile path => s!"opening file {path.shown}"
  | .makeAbsolute path => s!"making {path.shown} absolute"
  | .createDir path => s!"creating dir {path.shown}"
  | .readDir path => s!"reading dir {path.shown}"
  | .copy source target => s!"copying {source.shown} to {target.shown}"

/-- Why an operation on files fails. -/
inductive FileFault where
  /-- There is nothing at the path. -/
  | notFound (path : FilePath)
  /-- There is a directory at the path. -/
  | isDirectory (path : FilePath)
  /-- There is no directory at the path. -/
  | notDirectory (path : FilePath)
  /-- There is a file at the path. -/
  | isFile (path : FilePath)
  /-- The file at the path is no text. -/
  | notText (path : FilePath) (fault : Utf8Fault)
  /-- Changes at the path are made to fail. -/
  | injected (path : FilePath)
  /-- A path that was listed is not where it should be. -/
  | notBelow (path root : FilePath)
  /-- The operating system refused, during a task if one is named. -/
  | system (task : Option Task) (cause : SystemFault)
  deriving DecidableEq, Repr

/-- What the fault is called, from the outside in. -/
def FileFault.chain : FileFault → List String
  | .notFound path => [s!"{path.shown} not found"]
  | .isDirectory path => [s!"{path.shown} is a directory"]
  | .notDirectory path => [s!"{path.shown} is not a directory"]
  | .isFile path => [s!"{path.shown} is a file"]
  | .notText path fault => [s!"{path.shown} is not UTF-8: {fault.message}"]
  | .injected path => [s!"injected failure for {path.shown}"]
  | .notBelow path root => [s!"{path.shown} is not below {root.shown}", "prefix not found"]
  | .system none cause => [cause.message]
  | .system (some task) cause => [task.message, cause.message]

/-- What the fault is called on the outside. -/
def FileFault.message (fault : FileFault) : String := fault.chain.headD ""

end CaseRunner.Files
