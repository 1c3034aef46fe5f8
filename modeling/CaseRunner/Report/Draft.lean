import CaseRunner.Text.Utf8

/-!
# `CaseRunner.Report.Draft`: writing a result artifact piece by piece

A draft collects the attributes of the root element and the markup inside it. Texts go
in as they are given: a draft of texts with markup in them is not always well formed.
-/

set_option autoImplicit false

namespace CaseRunner.Report

/-- A result artifact being written. -/
structure Draft where
  /-- The attributes of the root element, in order. -/
  attributes : List (String × String)
  /-- The markup inside the root element. -/
  body : String
  deriving DecidableEq, Repr

namespace Draft

/-- A draft for a test case of the given name and number. -/
def ofCase (name : String) (id : Int) : Draft :=
  ⟨[("ScenarioName", name), ("ScenarioId", toString id)], ""⟩

/-- The draft with one more attribute of the root element. -/
def withAttribute (d : Draft) (key value : String) : Draft :=
  { d with attributes := d.attributes ++ [(key, value)] }

/-- The draft with more markup inside the root element. -/
def withMarkup (d : Draft) (markup : String) : Draft := { d with body := d.body ++ markup }

/-- The draft with a log entry, with or without a type. -/
def withLog (d : Draft) (type : Option String) (text : String) : Draft :=
  match type with
  | some type => d.withMarkup s!"<Log Type=\"{type}\">{text}</Log>"
  | none => d.withMarkup s!"<Log>{text}</Log>"

/-- The draft with an assessment variable. -/
def withAssessment (d : Draft) (name result type value message : String) : Draft :=
  d.withMarkup (s!"<AssessmentVariable Name=\"{name}\" Result=\"{result}\" Type=\"{type}\" "
    ++ s!"Value=\"{value}\">{message}</AssessmentVariable>")

/-- The document of a draft. -/
def document (d : Draft) : String :=
  let attributes := String.join (d.attributes.map fun (key, value) => s!" {key}=\"{value}\"")
  "<?xml version=\"1.0\" encoding=\"UTF-8\"?>\n"
    ++ s!"<TestcaseInformation{attributes}>{d.body}</TestcaseInformation>"

end Draft

end CaseRunner.Report
