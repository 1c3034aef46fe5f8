/-!
# `CaseRunner.Journal.Entry`: what the program notes while it works

An entry is a short message with named values, a severity, and the part of the program
that wrote it. Entries are data: the activities return them in order, and whoever runs an
activity decides what becomes of them.
-/

set_option autoImplicit false

namespace CaseRunner.Journal

/-- How much an entry matters, the most severe first. -/
inductive Severity where
  /-- Something failed. -/
  | error
  /-- Something may be wrong. -/
  | warning
  /-- Progress. -/
  | info
  /-- Details. -/
  | debug
  /-- Every detail. -/
  | trace
  deriving DecidableEq, Repr

/-- The rank of a severity: the higher, the more detailed. -/
def Severity.rank : Severity → Nat
  | .error => 1
  | .warning => 2
  | .info => 3
  | .debug => 4
  | .trace => 5

/-- The word for a severity in front of an entry. -/
def Severity.word : Severity → String
  | .error => "ERROR"
  | .warning => "WARN"
  | .info => "INFO"
  | .debug => "DEBUG"
  | .trace => "TRACE"

/-- The part of the program that writes an entry. -/
inductive Origin where
  /-- The session and the commands. -/
  | top
  /-- Reading the configuration. -/
  | settings
  /-- Reading a result artifact. -/
  | report
  /-- Waiting. -/
  | wait
  /-- Getting hold of the tool. -/
  | acquire
  /-- Choosing the executable. -/
  | command
  /-- Forwarding the output of the tool. -/
  | drain
  /-- Starting the tool. -/
  | process
  /-- Waiting until the tool is ready. -/
  | readiness
  /-- Copying artifacts. -/
  | copyBack
  /-- Opening and closing projects. -/
  | project
  /-- Restoring a configuration. -/
  | snapshot
  /-- Running one test case. -/
  | transaction
  deriving DecidableEq, Repr

/-- The name of a part in front of an entry and in log filters. -/
def Origin.name : Origin → String
  | .top => "tpt_exec"
  | .settings => "tpt_exec::config::loader"
  | .report => "tpt_exec::result::parser"
  | .wait => "tpt_exec::wait"
  | .acquire => "tpt_exec::launch::acquire"
  | .command => "tpt_exec::launch::command"
  | .drain => "tpt_exec::launch::drain"
  | .process => "tpt_exec::launch::process"
  | .readiness => "tpt_exec::launch::readiness"
  | .copyBack => "tpt_exec::execution::copy_back"
  | .project => "tpt_exec::execution::project"
  | .snapshot => "tpt_exec::execution::snapshot"
  | .transaction => "tpt_exec::execution::transaction"

/-- One thing noted. -/
structure Entry where
  /-- How much it matters. -/
  severity : Severity
  /-- Which part of the program notes it. -/
  origin : Origin
  /-- The message. -/
  message : String
  /-- Named values, in order. -/
  fields : List (String × String)
  deriving DecidableEq, Repr

/-- The message followed by the named values. -/
def Entry.text (e : Entry) : String :=
  String.join (e.message :: e.fields.map fun (name, value) => s!" {name}={value}")

/-- The entry after its severity. -/
def Entry.line (e : Entry) : String := s!"{e.severity.word} {e.text}"

/-- The entry after its severity and its origin. -/
def Entry.fullLine (e : Entry) : String := s!"{e.severity.word} {e.origin.name}: {e.text}"

end CaseRunner.Journal
