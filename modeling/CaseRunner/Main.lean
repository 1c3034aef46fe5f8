import CaseRunner.Program

/-!
# `CaseRunner.Main`: the program

The files that a command line is about are read, and the rest is `Program.ending`. The
journal goes to the error output, the answer to the ordinary output.
-/

set_option autoImplicit false

namespace CaseRunner

open CaseRunner.Files (Disk)

/-- Puts what there is at a path onto the disk. -/
def observe (disk : Disk) (path : FilePath) : IO Disk := do
  try
    let contents ← IO.FS.readBinFile path.text
    return disk.deposit path contents.toList
  catch _ =>
    try
      let place ← IO.FS.realPath path.text
      return if ← place.isDir then (disk.makeDirs path).2 else disk
    catch _ => return disk

/-- The disk with nothing but the working directory. -/
def emptyDisk : IO Disk := do
  let working := FilePath.ofString (← IO.currentDir).toString
  let place := working.segments.filter (!·.isEmpty)
  return { (Disk.makeDirs ⟨[], []⟩ working).2 with working := place }

/-- The disk with the files that a command is about. -/
def observeAll (env : Config.Environment) (words : List String) : IO Disk := do
  let disk ← emptyDisk
  match CommandLine.read words with
  | .error _ => return disk
  | .ok arguments =>
    match arguments.command with
    | .parse path _ => observe disk path
    | .check config =>
      let path := config.getD (Config.defaultConfigPath env)
      let disk ← observe disk path
      match (Config.readSource path).run.run ⟨disk, []⟩ with
      | some (.ok source, _) => source.tool.executables.foldlM observe disk
      | _ => return disk

/-- The variables of the environment that matter. -/
def readEnvironment : IO Config.Environment :=
  ["HOSTNAME", "TPT_EXEC_CONFIG", "TPT_EXEC_LOG"].filterMapM fun name =>
    return (← IO.getEnv name).map (name, ·)

end CaseRunner

/-- Runs the program. -/
def main (words : List String) : IO UInt32 := do
  let env ← CaseRunner.readEnvironment
  let ending := CaseRunner.Program.ending env (← CaseRunner.observeAll env words) words
  for remark in ending.remarks do IO.eprintln remark
  IO.print ending.answer
  return ending.code.toUInt32
