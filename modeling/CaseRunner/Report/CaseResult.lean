import CaseRunner.Calendar.DateTime
import CaseRunner.Report.Log
import CaseRunner.Report.Outcome

/-!
# `CaseRunner.Report.CaseResult`: the result of one test case

A result names its test case by name and number, says when and how long it ran and how
it ended, and holds its log and its assessment variables in document order. Where it was
produced, the execution configuration and the platform, is added from outside.
-/

set_option autoImplicit false

namespace CaseRunner.Report

open CaseRunner.Calendar

/-- A value that the tool assessed. -/
structure Assessment where
  /-- The name of the variable. -/
  name : Option String
  /-- How the assessment ended. -/
  result : Option String
  /-- The type of the variable. -/
  type : Option String
  /-- The value. -/
  value : Option String
  /-- The text that came with it. -/
  message : String
  deriving DecidableEq, Repr

/-- The result of one test case. -/
structure CaseResult where
  /-- The name of the test case. -/
  name : String
  /-- The number of the test case, of 64 bits with a sign. -/
  id : Int
  /-- The execution configuration that produced the result. -/
  configuration : String
  /-- The platform that produced the result. -/
  platform : String
  /-- When the test case ran. -/
  executedAt : Option DateTime
  /-- How long the test case ran, as the tool writes it. -/
  duration : String
  /-- How the test case ended. -/
  outcome : Outcome
  /-- The log. -/
  log : Log
  /-- The assessed variables, in order. -/
  assessments : List Assessment
  deriving DecidableEq

namespace CaseResult

/-- A result of which only name and number are known. -/
def ofCase (name : String) (id : Int) : CaseResult where
  name := name
  id := id
  configuration := ""
  platform := ""
  executedAt := none
  duration := "0"
  outcome := .inconclusive
  log := .empty
  assessments := []

/-- Name and number, which together tell results apart. -/
def qualifiedName (r : CaseResult) : String := r.name ++ "_" ++ toString r.id

/-- The result with the place that produced it. -/
def withOrigin (r : CaseResult) (configuration platform : String) : CaseResult :=
  { r with configuration := configuration, platform := platform }

end CaseResult

end CaseRunner.Report
