import CaseRunner.Report.CaseResult
import CaseRunner.Text.Blank

/-!
# `CaseRunner.Report.Summary`: a result for the reader

The summary has one line per topic. With all details the log and the assessment
variables follow, entry by entry; a question mark stands for what is not known.
-/

set_option autoImplicit false

namespace CaseRunner.Report

open CaseRunner.Text (trimmed isBlankText)

/-- Lines of text, each with its end. -/
def lines (texts : List String) : String := String.join (texts.map (· ++ "\n"))

/-- The number of log entries of a level. -/
def CaseResult.count (r : CaseResult) (level : Level) : Nat := (r.log.ofLevel level).length

/-- The lines about an assessment variable: a message without a sign is left out. -/
def Assessment.summary (a : Assessment) : List String :=
  let known (value : Option String) : String := value.getD "?"
  s!"  {known a.name} ({known a.type}) = {known a.value} -> {known a.result}"
    :: if isBlankText a.message then [] else ["      " ++ trimmed a.message]

/-- The line about a log entry. -/
def LogEntry.summary (e : LogEntry) : String := s!"  [{e.level.name}] {trimmed e.text}"

/-- The summary of a result, with all details if `verbose`. -/
def CaseResult.summary (r : CaseResult) (verbose : Bool) : String :=
  let executed := (r.executedAt.map (·.display)).getD "unknown"
  let log := s!"{r.count .info} info, {r.count .warning} warning, {r.count .error} error, "
    ++ s!"{r.count .all} other"
  lines ([s!"{r.qualifiedName}: {r.outcome.display}", s!"  executed: {executed}",
      s!"  duration: {r.duration}", s!"  log: {log}",
      s!"  assessment variables: {r.assessments.length}"]
    ++ if verbose then
        r.log.entries.map LogEntry.summary ++ r.assessments.flatMap Assessment.summary
      else [])

end CaseRunner.Report
