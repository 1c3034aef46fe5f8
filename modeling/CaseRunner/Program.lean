import CaseRunner.CommandLine.Arguments
import CaseRunner.Config.Load
import CaseRunner.Connection.Plan
import CaseRunner.Report.Load
import CaseRunner.Report.Summary

/-!
# `CaseRunner.Program`: the commands and how the program ends

A command prints one text, or fails and prints nothing. The program as a whole also
shows the entries of its journal that pass the filter, says why it failed, and ends with
a number: 0 if all went well, 1 after a failure, 2 for a command line it does not accept.
-/

set_option autoImplicit false

namespace CaseRunner

open CaseRunner.CommandLine (Arguments Refusal)
open CaseRunner.Config (Environment)
open CaseRunner.Files (Disk)

namespace Program

/-- What a command prints. -/
def run (env : Environment) (arguments : Arguments) : FileAction Disk String := do
  match arguments.command with
  | .check config =>
    let settings ← Config.load env (config.getD (Config.defaultConfigPath env))
    return Report.lines (← Connection.plan settings)
  | .parse path verbose =>
    let result ← Report.load path
    return result.summary verbose

/-- A failure and its causes, from the outside in. -/
def causes : Failure → List String
  | .inputOutput text => [(Failure.inputOutput text).message, text]
  | .unreadableConfiguration text =>
    (Failure.unreadableConfiguration text).message :: text.toList
  | .other chain => chain
  | failure => [failure.message]

/-- A number in a field of a width. -/
def padded (width n : Nat) : String :=
  let digits := toString n
  String.ofList (List.replicate (width - digits.length) ' ') ++ digits

/-- What is said of a failure at the end: the causes follow it, numbered if there are
several. -/
def complaint : List String → List String
  | [] => []
  | [outermost] => [s!"tpt-exec error: {outermost}"]
  | [outermost, cause] => [s!"tpt-exec error: {outermost}", "", "Caused by:", s!"    {cause}"]
  | outermost :: inner =>
    [s!"tpt-exec error: {outermost}", "", "Caused by:"]
      ++ inner.mapIdx fun i cause => s!"{padded 5 i}: {cause}"

/-- How the program ends, and what it has printed. -/
structure Ending where
  /-- The number it ends with. -/
  code : Nat
  /-- The text printed as the answer. -/
  answer : String
  /-- The lines printed beside it: the journal, and why it failed. -/
  remarks : List String
  deriving DecidableEq, Repr

/-- The text that names the version. -/
def versionText : String := "tpt-exec 0.1.0\n"

/-- How the program ends if the command line is refused or asks for a text. -/
def ofRefusal : Refusal → Ending
  | .version => ⟨0, versionText, []⟩
  | .help => ⟨0, "", []⟩
  | _ => ⟨2, "", []⟩

/-- The program with its arguments, its environment and the files there are. -/
def ending (env : Environment) (files : Disk) (words : List String) : Ending :=
  match CommandLine.read words with
  | .error refusal => ofRefusal refusal
  | .ok arguments =>
    match Journal.Filter.choose arguments.logLevel (env.get? "TPT_EXEC_LOG") with
    | .error invalid => ⟨1, "", complaint invalid.chain⟩
    | .ok filter =>
      match (run env arguments).run.run ⟨files, []⟩ with
      | none => ⟨1, "", []⟩
      | some (result, after) =>
        let journal := (after.entries.filter filter.shows).map (·.fullLine)
        match result with
        | .ok answer => ⟨0, answer, journal⟩
        | .error failure => ⟨1, "", journal ++ complaint (causes failure)⟩

end Program

end CaseRunner
