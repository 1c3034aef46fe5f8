import CaseRunner.Text.Blank
import CaseRunner.Text.LowerCase

/-!
# `CaseRunner.Report.Outcome`: how a test case ended

The tool writes an outcome as one of a few words, in any case and with white space
around it. Everything else is refused, and the refusal shows the word in small letters.
-/

set_option autoImplicit false

namespace CaseRunner.Report

open CaseRunner.Text

/-- How the execution of a test case ended. -/
inductive Outcome where
  /-- The test case passed. -/
  | success
  /-- Nothing was decided. -/
  | inconclusive
  /-- The test case failed. -/
  | failed
  /-- The execution itself went wrong. -/
  | error
  deriving DecidableEq, Repr

/-- The word that reports an outcome. -/
def Outcome.display : Outcome → String
  | .success => "SUCCESS"
  | .inconclusive => "INCONCLUSIVE"
  | .failed => "FAILED"
  | .error => "ERROR"

/-- The outcome that a word in small letters names. -/
def Outcome.ofWord? (word : String) : Option Outcome :=
  match word with
  | "success" => some .success
  | "passed" => some .success
  | "inconclusive" => some .inconclusive
  | "failed" => some .failed
  | "error" => some .error
  | "execution_error" => some .error
  | _ => none

/-- A word as outcomes are compared: without white space around it, in small letters. -/
def plainWord (s : String) : String := String.ofList (lower (trim s.toList))

/-- Reads an outcome; the error is the word that names none. -/
def Outcome.read (s : String) : Except String Outcome :=
  match Outcome.ofWord? (plainWord s) with
  | some outcome => .ok outcome
  | none => .error (plainWord s)

/-- What is said of a word that names no outcome. -/
def unknownOutcome (word : String) : String := s!"unknown result '{word}'"

end CaseRunner.Report
