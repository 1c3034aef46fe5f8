import CaseRunner.Config.Check
import CaseRunner.Config.Decode
import CaseRunner.Files.Disk
import CaseRunner.Workspace

/-!
# `CaseRunner.Config.Load`: a configuration from a file

The configuration is read from the disk. A file that cannot be read, one that is no
configuration and a configuration that breaks a rule are three kinds of failure.
-/

set_option autoImplicit false

namespace CaseRunner.Config

open CaseRunner.Files (Disk)
open FileAction

/-- The configuration in a file, as written. -/
def readSource (path : FilePath) : FileAction Disk Source := do
  note .debug .settings "reading config" [("path", path.text)]
  match (← get).files.textContents path with
  | .error cause => throw (.inputOutput cause.message)
  | .ok text =>
    match Source.ofText text with
    | .error failure => throw failure
    | .ok source => return source

/-- The settings that the configuration in a file gives. -/
def load (env : Environment) (path : FilePath) : FileAction Disk Settings := do
  let source ← readSource path
  match source.check env with
  | .error fault => throw fault.failure
  | .ok settings => return settings

end CaseRunner.Config
