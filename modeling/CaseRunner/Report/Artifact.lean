import CaseRunner.Calendar.Stamp
import CaseRunner.Journal.Entry
import CaseRunner.Markup.Event
import CaseRunner.Markup.Reference
import CaseRunner.Report.CaseResult
import CaseRunner.Text.Numeral

/-!
# `CaseRunner.Report.Artifact`: reading a result artifact

The tool writes the result of a test case as a document with a root element for the
test case, and in it an element for each log entry and each assessment variable. The
element names are taken in any case, and elements of other names are passed over.

Reading goes through the events of the document once, with a `Collector` that holds the
result so far, the open log entry and the open variable. The first fault, of the markup
or of a value, ends it.
-/

set_option autoImplicit false

namespace CaseRunner.Report

open CaseRunner.Text
open CaseRunner.Markup (Event Tag ContentFault AttributeFault)

/-- The name of the root element. -/
def rootName : String := "TestcaseInformation"

/-- The name of a log entry's element. -/
def logName : String := "Log"

/-- The name of an assessment variable's element. -/
def assessmentName : String := "AssessmentVariable"

/-- Why a document is no result artifact. -/
inductive ArtifactFault where
  /-- The markup is at fault, so many bytes into the document. -/
  | markup (position : Nat) (fault : Markup.Fault)
  /-- The attributes of a tag are at fault. -/
  | badAttribute (fault : AttributeFault)
  /-- The value of an attribute is at fault. -/
  | badValue (fault : ContentFault)
  /-- Character data is at fault. -/
  | badText (fault : ContentFault)
  /-- The root element does not say the number of the test case. -/
  | missingId
  /-- The number of the test case is none. -/
  | invalidId (text : String)
  /-- The outcome is unknown. -/
  | unknownOutcome (word : String)
  /-- The date of the execution is none. -/
  | invalidDate (text : String)
  /-- There is no root element. -/
  | missingRoot
  deriving DecidableEq, Repr

/-- What is said of a text that is no date. -/
def invalidDate (text : String) : String := s!"can't parse date format \"{text}\""

/-- What the fault is called. -/
def ArtifactFault.message : ArtifactFault → String
  | .markup position fault => s!"XML error at position {position}: {fault.message}"
  | .badAttribute fault => s!"bad attribute: {fault.message}"
  | .badValue fault => s!"bad attribute value: {fault.message}"
  | .badText fault => s!"bad text content: {fault.message}"
  | .missingId => "missing ScenarioId"
  | .invalidId text => s!"invalid ScenarioId \"{text}\""
  | .unknownOutcome word => Report.unknownOutcome word
  | .invalidDate text => Report.invalidDate text
  | .missingRoot => "missing root element"

/-- The attributes of a tag by key, in order. -/
abbrev Attributes := List (String × String)

/-- The value of the first attribute with the given key. -/
def Attributes.get? (attributes : Attributes) (key : String) : Option String :=
  (attributes.find? (·.1 = key)).map (·.2)

/-- The attribute in characters. -/
def attributeText (a : Markup.RawAttribute) : Except ArtifactFault (String × String) := do
  let value ← (Markup.contentText a.value).mapError .badValue
  return (decodeStringLossy a.key, String.ofList value)

/-- The attributes of a tag in characters. Faults count in the order of the attributes. -/
def readAttributes (tag : Tag) : Except ArtifactFault Attributes := do
  let (raw, fault) := tag.attributes
  let attributes ← raw.mapM attributeText
  match fault with
  | some fault => throw (.badAttribute fault)
  | none => return attributes

/-- Reads the date of the execution. -/
def readDate (text : String) : Except ArtifactFault Calendar.DateTime :=
  match Calendar.readStamp text.toList with
  | some date => .ok date
  | none => .error (.invalidDate text)

/-- Reads the number of the test case, with white space around it. -/
def readId (text : String) : Except ArtifactFault Int :=
  (readInteger maxSigned (trim text.toList)).mapError fun _ => .invalidId text

/-- The result that the attributes of the root element describe. -/
def rootResult (attributes : Attributes) : Except ArtifactFault CaseResult := do
  let some idText := attributes.get? "ScenarioId" | throw .missingId
  let id ← readId idText
  let outcome ← match attributes.get? "Result" with
    | some text => (Outcome.read text).mapError .unknownOutcome
    | none => pure .inconclusive
  let executedAt ← match attributes.get? "ExecDate" with
    | some text => some <$> readDate text
    | none => pure none
  return { CaseResult.ofCase ((attributes.get? "ScenarioName").getD "") id with
    outcome := outcome
    executedAt := executedAt
    duration := (attributes.get? "ExecutionDuration").getD "0" }

/-- The assessment that the attributes of its element describe, without its text. -/
def assessmentOf (attributes : Attributes) : Assessment where
  name := attributes.get? "Name"
  result := attributes.get? "Result"
  type := attributes.get? "Type"
  value := attributes.get? "Value"
  message := ""

/-- A log entry whose element has begun. -/
structure OpenEntry where
  /-- The level, if the entry is to be recorded. -/
  level : Option Level
  /-- The text so far. -/
  text : String
  deriving DecidableEq, Repr

/-- Something about a document that is worth a note. -/
inductive Note where
  /-- An entry that is not to be recorded. -/
  | invisibleEntry
  /-- An entry before the root element. -/
  | entryOutsideRoot
  deriving DecidableEq, Repr

/-- What is known after a part of a document. -/
structure Collector where
  /-- The result, once the root element has begun. -/
  result : Option CaseResult
  /-- The open log entry. -/
  entry : Option OpenEntry
  /-- The open assessment variable. -/
  assessment : Option Assessment
  /-- What has been noted, in order. -/
  notes : List Note
  deriving DecidableEq

namespace Collector

/-- What is known before a document. -/
def initial : Collector := ⟨none, none, none, []⟩

/-- An element of the given name and attributes begins. -/
def openElement (c : Collector) (name : Bytes) (attributes : Attributes) :
    Except ArtifactFault Collector :=
  if Markup.sameIgnoringCase name (Markup.codes rootName) then
    (rootResult attributes).map fun result => { c with result := some result }
  else if Markup.sameIgnoringCase name (Markup.codes logName) then
    .ok { c with entry := some ⟨levelOfType (attributes.get? "Type"), ""⟩ }
  else if Markup.sameIgnoringCase name (Markup.codes assessmentName) then
    .ok { c with assessment := some (assessmentOf attributes) }
  else
    .ok c

/-- The open log entry ends. It is recorded if it has a level and there is a result. -/
def closeEntry (c : Collector) : Collector :=
  match c.entry with
  | none => c
  | some entry =>
    match entry.level, c.result with
    | some level, some result =>
      { c with
        entry := none
        result := some { result with log := result.log.push level entry.text } }
    | none, _ => { c with entry := none, notes := c.notes ++ [.invisibleEntry] }
    | some _, none => { c with entry := none, notes := c.notes ++ [.entryOutsideRoot] }

/-- The open assessment variable ends. It is recorded if there is a result. -/
def closeAssessment (c : Collector) : Collector :=
  match c.assessment, c.result with
  | some assessment, some result =>
    { c with
      assessment := none
      result := some { result with assessments := result.assessments ++ [assessment] } }
  | _, _ => { c with assessment := none }

/-- An element of the given name ends. -/
def closeElement (c : Collector) (name : Bytes) : Collector :=
  if Markup.sameIgnoringCase name (Markup.codes logName) then c.closeEntry
  else if Markup.sameIgnoringCase name (Markup.codes assessmentName) then c.closeAssessment
  else c

/-- Characters belong to the open log entry and to the open assessment variable. -/
def addText (c : Collector) (text : String) : Collector :=
  { c with
    entry := c.entry.map fun entry => { entry with text := entry.text ++ text }
    assessment := c.assessment.map fun a => { a with message := a.message ++ text } }

/-- What is known after one more event. -/
def step (c : Collector) : Event → Except ArtifactFault Collector
  | .opening tag => do c.openElement tag.name (← readAttributes tag)
  | .empty tag => do
    let c ← c.openElement tag.name (← readAttributes tag)
    return c.closeElement tag.name
  | .closing name => .ok (c.closeElement name)
  | .text raw => do
    let text ← (Markup.contentText raw).mapError .badText
    return c.addText (String.ofList text)
  | .cdata raw => .ok (c.addText (decodeStringLossy raw))

/-- What is known after the events up to the first fault, and that fault. -/
def run (c : Collector) : List Event → Collector × Option ArtifactFault
  | [] => (c, none)
  | event :: rest =>
    match c.step event with
    | .error fault => (c, some fault)
    | .ok next => next.run rest

end Collector

/-- What is known of a document, and the first fault of its values or its markup. -/
def collect (document : Bytes) : Collector × Option ArtifactFault :=
  let reading := Markup.read document
  let (c, fault) := Collector.initial.run reading.events
  (c, fault <|> reading.fault.map fun located => .markup located.position located.fault)

/-- Reads a result artifact. -/
def parse (document : Bytes) : Except ArtifactFault CaseResult :=
  match collect document with
  | (_, some fault) => .error fault
  | (c, none) =>
    match c.result with
    | some result => .ok result
    | none => .error .missingRoot

/-- The journal entry for a note. -/
def Note.entry : Note → Journal.Entry
  | .invisibleEntry => ⟨.debug, .report, "suppressed invisible log entry", []⟩
  | .entryOutsideRoot => ⟨.debug, .report, "log entry outside root element ignored", []⟩

/-- What is noted while a document is read. -/
def parseJournal (document : Bytes) : List Journal.Entry :=
  (collect document).1.notes.map Note.entry

end CaseRunner.Report
