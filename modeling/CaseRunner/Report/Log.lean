import CaseRunner.Text.LowerCase

/-!
# `CaseRunner.Report.Log`: the log of a test case

Every log entry of a result belongs to one level. The log keeps the entries of all
levels in one order and shows those of a level in that same order:

* `ofLevel_push`: an entry is added at the end of its own level and to no other.
-/

set_option autoImplicit false

namespace CaseRunner.Report

open CaseRunner.Text

/-- The level of a log entry. -/
inductive Level where
  /-- Progress. -/
  | info
  /-- A warning. -/
  | warning
  /-- An error. -/
  | error
  /-- An entry of no particular level. -/
  | all
  deriving DecidableEq, Repr

/-- The name of a level. -/
def Level.name : Level → String
  | .info => "Info"
  | .warning => "Warning"
  | .error => "Error"
  | .all => "All"

/-- The level for the type of a log entry; entries without a level are not recorded. An
entry without a type, or of an unknown one, belongs to no particular level. -/
def levelOfType : Option String → Option Level
  | none => some .all
  | some type =>
    match lowered type with
    | "info" => some .info
    | "customoutput" => some .info
    | "section" => some .info
    | "warning" => some .warning
    | "error" => some .error
    | "invisible" => none
    | _ => some .all

/-- An entry of a result's log. -/
structure LogEntry where
  /-- The level. -/
  level : Level
  /-- The text. -/
  text : String
  deriving DecidableEq, Repr

/-- The log of a result, in document order. -/
structure Log where
  /-- All entries. -/
  entries : List LogEntry
  deriving DecidableEq, Repr

namespace Log

/-- The log without entries. -/
def empty : Log := ⟨[]⟩

/-- The log with one more entry at its end. -/
def push (log : Log) (level : Level) (text : String) : Log := ⟨log.entries ++ [⟨level, text⟩]⟩

/-- The entries of one level, in order. -/
def ofLevel (log : Log) (level : Level) : List LogEntry :=
  log.entries.filter (·.level = level)

/-- The number of entries. -/
def size (log : Log) : Nat := log.entries.length

/-- A new entry stands at the end of its own level and in no other. -/
theorem ofLevel_push (log : Log) (level other : Level) (text : String) :
    (log.push level text).ofLevel other =
      log.ofLevel other ++ if level = other then [⟨level, text⟩] else [] := by
  by_cases h : level = other <;> simp [push, ofLevel, h]

end Log

end CaseRunner.Report
