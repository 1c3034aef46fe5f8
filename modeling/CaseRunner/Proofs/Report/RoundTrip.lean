import CaseRunner.Proofs.Report.Tree
import CaseRunner.Proofs.Text.Numeral

/-!
# `CaseRunner.Proofs.Report.RoundTrip`: a written result artifact is read as it was meant

A `Document` is a tree with one root element, and comments, instructions and white space
around it. `Describes` says what the attributes of the root element tell: the number of the
test case, the outcome and the date, each as text that can be read.

* `parse_document`: the bytes of a document are read as the result that its tree describes.
-/

set_option autoImplicit false

namespace CaseRunner.Report

open CaseRunner.Text
open CaseRunner.Calendar (DateTime readStamp)
open CaseRunner.Markup (Name Piece StartTag byteOrderMark eventsFrom written)

/-! ### Documents -/

/-- Whether the piece can stand outside the root element. -/
def isMargin : Piece → Bool
  | .comment _ => true
  | .instruction _ => true
  | .data text => text.all (· ∈ [' ', '\t', '\n', '\r'])
  | _ => false

/-- A document with one root element. -/
structure Document where
  /-- What stands before the root element. -/
  before : List Piece
  /-- The tag that begins the root element. -/
  tag : StartTag
  /-- The content of the root element; none if it is written as one tag. -/
  content : Option Forest
  /-- What stands after the root element. -/
  after : List Piece
  /-- The root element has the name that it is known by. -/
  root : kindOf tag.name = .root
  /-- The log entries and the assessments hold neither. -/
  placed : (content.getD .nil).wellPlaced = true
  /-- There are only comments, instructions and white space before the root element. -/
  margin_before : before.all isMargin = true
  /-- There are only comments, instructions and white space after the root element. -/
  margin_after : after.all isMargin = true

namespace Document

/-- The root element. -/
def element (d : Document) : Forest :=
  match d.content with
  | none => .empty d.tag .nil
  | some content => .element d.tag content .nil

/-- The pieces of which the document is written. -/
def pieces (d : Document) : List Piece := d.before ++ (d.element.pieces ++ d.after)

/-- The bytes of the document. -/
def bytes (d : Document) : Bytes := encode (written d.pieces)

/-- The result that the tree describes, apart from what the attributes of the root element
have to be read for. -/
def result (d : Document) (id : Int) (outcome : Outcome) (executedAt : Option DateTime) :
    CaseResult where
  name := (valueOf? d.tag "ScenarioName").getD ""
  id := id
  configuration := ""
  platform := ""
  executedAt := executedAt
  duration := (valueOf? d.tag "ExecutionDuration").getD "0"
  outcome := outcome
  log := ⟨(d.content.getD .nil).entries⟩
  assessments := (d.content.getD .nil).assessments

end Document

/-- What the attributes of a root element tell. Only the number of the test case has to be
there. -/
structure Describes (tag : StartTag) (id : Int) (outcome : Outcome)
    (executedAt : Option DateTime) : Prop where
  /-- The number is one of 64 bits with a sign. -/
  low : -0x8000000000000000 ≤ id
  /-- The number is one of 64 bits with a sign. -/
  high : id < 0x8000000000000000
  /-- The number is there in its decimal form, with white space around it. -/
  id : ∃ before after, before.all isBlank = true ∧ after.all isBlank = true ∧
    valueOf? tag "ScenarioId" = some (String.ofList (before ++ id.repr.toList ++ after))
  /-- The outcome is what its word names. -/
  outcome : (valueOf? tag "Result").elim (outcome = .inconclusive) (NamesOutcome · outcome)
  /-- The date is what its stamp says. -/
  date : (valueOf? tag "ExecDate").elim (executedAt = none) fun text =>
    ∃ t, readStamp text.toList = some t ∧ executedAt = some t

/-- The order of attributes does not matter: each has its value, as no other has its key. -/
theorem valueOf?_of_mem {tag : StartTag} {key : Name} {value : List Char}
    (h : (key, value) ∈ tag.attributes.entries) :
    valueOf? tag (String.ofList key.chars) = some (String.ofList value) := by
  have hdistinct := tag.attributes.distinct
  rw [valueOf?, String.toList_ofList]
  generalize tag.attributes.entries = entries at h hdistinct
  induction entries with
  | nil => cases h
  | cons entry entries ih =>
      obtain ⟨hfresh, hlater⟩ := List.nodup_cons.mp hdistinct
      rcases List.mem_cons.mp h with rfl | hmem
      · simp
      · have hkey : entry.1.chars ≠ key.chars := fun heq =>
          hfresh (List.mem_map.mpr ⟨(key, value), hmem, heq.symm⟩)
        rw [List.find?_cons_of_neg (by simpa using hkey)]
        exact ih hmem hlater

/-! ### The root element -/

variable {tag : StartTag} {id : Int} {outcome : Outcome} {executedAt : Option DateTime}

/-- The number is read from its decimal form. -/
theorem Describes.readId (h : Describes tag id outcome executedAt) {text : String}
    (htext : valueOf? tag "ScenarioId" = some text) : readId text = .ok id := by
  obtain ⟨before, after, hbefore, hafter, hvalue⟩ := h.id
  obtain rfl := Option.some.inj (htext.symm.trans hvalue)
  have hlow : -(maxSigned : Int) - 1 ≤ id := h.low
  have hhigh : id ≤ maxSigned := Int.le_of_lt_add_one h.high
  rw [Report.readId, String.toList_ofList, trim_repr hbefore hafter, readInteger_repr hlow hhigh]
  rfl

/-- The outcome is read from its word, and is inconclusive without one. -/
theorem Describes.readOutcome (h : Describes tag id outcome executedAt) :
    (match valueOf? tag "Result" with
      | some text => (Outcome.read text).mapError ArtifactFault.unknownOutcome
      | none => pure .inconclusive) = Except.ok outcome := by
  have houtcome := h.outcome
  cases hvalue : valueOf? tag "Result" with
  | none =>
      rw [hvalue] at houtcome
      exact congrArg Except.ok (Eq.symm houtcome)
  | some text =>
      rw [hvalue] at houtcome
      exact congrArg (Except.mapError ArtifactFault.unknownOutcome) (read_eq_ok_iff.mpr houtcome)

/-- The date is read from its stamp, and unknown without one. -/
theorem Describes.readExecution (h : Describes tag id outcome executedAt) :
    (match valueOf? tag "ExecDate" with
      | some text => some <$> readDate text
      | none => pure none) = Except.ok executedAt := by
  have hdate := h.date
  cases hvalue : valueOf? tag "ExecDate" with
  | none =>
      rw [hvalue] at hdate
      exact congrArg Except.ok (Eq.symm hdate)
  | some text =>
      rw [hvalue] at hdate
      obtain ⟨t, ht, rfl⟩ := hdate
      show some <$> readDate text = _
      rw [readDate, ht]
      rfl

/-- The result at the beginning of the root element. -/
def begun (tag : StartTag) (id : Int) (outcome : Outcome) (executedAt : Option DateTime) :
    CaseResult :=
  { CaseResult.ofCase ((valueOf? tag "ScenarioName").getD "") id with
    outcome := outcome
    executedAt := executedAt
    duration := (valueOf? tag "ExecutionDuration").getD "0" }

/-- The attributes of the root element are read as what they tell. -/
theorem Describes.rootResult (h : Describes tag id outcome executedAt) :
    rootResult (textsOf tag) = .ok (begun tag id outcome executedAt) := by
  obtain ⟨before, after, -, -, hvalue⟩ := h.id
  have hid := h.readId hvalue
  have houtcome := h.readOutcome
  have hdate := h.readExecution
  rw [Report.rootResult]
  simp only [get?_textsOf, hvalue, hid]
  cases hresult : valueOf? tag "Result" <;>
    cases hexecuted : valueOf? tag "ExecDate" <;>
    simp only [hresult, hexecuted] at houtcome hdate ⊢ <;>
    simp only [houtcome, hdate] <;>
    rfl

/-! ### Around the root element -/

/-- Comments, instructions and white space leave the open elements as they are. -/
theorem opened_margin {pieces : List Piece} (h : pieces.all isMargin = true)
    (names : List Name) : pieces.foldlM Piece.opened names = some names := by
  induction pieces with
  | nil => rfl
  | cons piece pieces ih =>
      obtain ⟨hpiece, hpieces⟩ := Bool.and_eq_true_iff.mp h
      cases piece with
      | data | comment | instruction => exact ih hpieces
      | _ => exact absurd hpiece Bool.false_ne_true

/-- Comments, instructions and white space tell nothing where no entry is open. -/
theorem take_margin {pieces : List Piece} (h : pieces.all isMargin = true) {c : Collector}
    (hentry : c.entry = none) (hassessment : c.assessment = none) :
    pieces.foldlM Collector.take c = .ok c := by
  induction pieces with
  | nil => rfl
  | cons piece pieces ih =>
      obtain ⟨hpiece, hpieces⟩ := Bool.and_eq_true_iff.mp h
      cases piece with
      | data text =>
          -- Characters are kept only for an open entry or assessment, and there is none.
          have hsame : c.addText (String.ofList text) = c := by
            rw [Collector.addText, hentry, hassessment]
            cases c
            simp_all
          rw [List.foldlM_cons, Collector.take, hsame]
          exact ih hpieces
      | comment | instruction => exact ih hpieces
      | _ => exact absurd hpiece Bool.false_ne_true

/-- The first byte of a document is that of markup or white space. -/
theorem head_margin {pieces : List Piece} (h : pieces.all isMargin = true) {rest : List Char}
    (hrest : ∃ more, rest = '<' :: more) :
    ∃ b more, encode (written pieces ++ rest) = b :: more ∧ b.toNat < 0x80 := by
  -- Empty character data writes nothing, so the first piece need not be the first to be seen.
  induction pieces with
  | nil =>
      obtain ⟨more, rfl⟩ := hrest
      exact ⟨_, _, encode_cons_of_ascii (by decide) more, by decide⟩
  | cons piece pieces ih =>
      obtain ⟨hpiece, hpieces⟩ := Bool.and_eq_true_iff.mp h
      rw [Markup.written_cons, List.append_assoc]
      cases piece with
      | data text =>
          cases text with
          | nil => exact ih hpieces
          | cons c text =>
              have hc : c ∈ [' ', '\t', '\n', '\r'] := by
                have hspace := (Bool.and_eq_true_iff.mp hpiece).1
                exact of_decide_eq_true hspace
              simp only [List.mem_cons, List.not_mem_nil, or_false] at hc
              rcases hc with rfl | rfl | rfl | rfl <;>
                exact ⟨_, _, encode_cons_of_ascii (by decide) _, by decide⟩
      | comment passage => exact ⟨_, _, encode_cons_of_ascii (by decide) _, by decide⟩
      | instruction passage => exact ⟨_, _, encode_cons_of_ascii (by decide) _, by decide⟩
      | _ => exact absurd hpiece Bool.false_ne_true

/-! ### The whole document -/

namespace Document

/-- The pieces of the document nest. -/
theorem opened_pieces (d : Document) : d.pieces.foldlM Piece.opened [] = some [] := by
  rw [pieces, List.foldlM_append, opened_margin d.margin_before]
  show (d.element.pieces ++ d.after).foldlM Piece.opened [] = _
  rw [List.foldlM_append, d.element.opened_pieces]
  exact opened_margin d.margin_after []

/-- A document does not begin with a byte order mark. -/
theorem no_byteOrderMark (d : Document) : ¬byteOrderMark <+: encode (written d.pieces) := by
  have hroot : ∃ more, written (d.element.pieces ++ d.after) = '<' :: more := by
    unfold element
    cases d.content with
    | none => exact ⟨_, rfl⟩
    | some content => exact ⟨_, rfl⟩
  -- The first byte of the mark is no ASCII code, that of a document is.
  obtain ⟨b, more, hbytes, hascii⟩ := head_margin d.margin_before hroot
  have hwritten : written d.pieces = written d.before ++ written (d.element.pieces ++ d.after) :=
    List.flatMap_append
  rw [hwritten, hbytes]
  intro hpre
  rw [← (List.cons_prefix_cons.mp hpre).1] at hascii
  exact absurd hascii (by decide)

/-- The root element leaves the result that the document describes. -/
theorem take_element (d : Document) (h : Describes d.tag id outcome executedAt) :
    ∃ c, d.element.pieces.foldlM Collector.take .initial = .ok c ∧
      c.Within (d.result id outcome executedAt) := by
  have hopen := Collector.initial.openElement_kind d.tag.name (textsOf d.tag)
  rw [d.root, h.rootResult] at hopen
  have hbegun : Collector.Within ⟨some (begun d.tag id outcome executedAt), none, none, []⟩
      (begun d.tag id outcome executedAt) := ⟨rfl, rfl, rfl⟩
  obtain ⟨c, htake, hwithin⟩ := Collector.take_content d.placed hbegun
  have hroot : (Forest.element d.tag (d.content.getD .nil) .nil).pieces.foldlM Collector.take
      .initial = .ok c := by
    rw [Collector.take_element hopen htake, Collector.closeElement_kind, d.root]
    rfl
  refine ⟨c, ?_, hwithin⟩
  rw [element]
  cases hcontent : d.content with
  | none =>
      rw [hcontent] at hroot
      exact (Collector.take_empty d.tag .nil .initial).trans hroot
  | some content =>
      rw [hcontent] at hroot
      exact hroot

end Document

/-- A document is read as the result that its tree describes: name, number, duration, outcome
and date as the attributes of the root element tell, and the log and the assessments in
document order, each with the characters inside its element. -/
theorem parse_document (d : Document) (h : Describes d.tag id outcome executedAt) :
    parse d.bytes = .ok (d.result id outcome executedAt) := by
  obtain ⟨c, htake, hwithin⟩ := d.take_element h
  have hpieces : d.pieces.foldlM Collector.take .initial = .ok c := by
    rw [Document.pieces, List.foldlM_append, take_margin d.margin_before rfl rfl]
    show (d.element.pieces ++ d.after).foldlM Collector.take .initial = _
    rw [List.foldlM_append, htake]
    exact take_margin d.margin_after hwithin.entry hwithin.assessment
  have hrun : Collector.initial.run (eventsFrom [] d.pieces) = (c, none) :=
    Collector.run_eventsFrom hpieces
  have hcollect : collect d.bytes = (c, none) := by
    rw [collect, Document.bytes, Markup.read_written d.opened_pieces d.no_byteOrderMark, hrun]
    rfl
  rw [parse, hcollect]
  simp only [hwithin.result]

/-! ### A document -/

/-- A root element with capitals in its name, white space around the number and the given word
for the outcome. -/
def sampleTag (word : String) : StartTag where
  name := ⟨"testcaseINFORMATION".toList, by decide, by decide⟩
  attributes := ⟨[
    (⟨"Result".toList, by decide, by decide⟩, word.toList),
    (⟨"ScenarioId".toList, by decide, by decide⟩, " -42\n".toList),
    (⟨"ExecDate".toList, by decide, by decide⟩, "14:05:09 01.02.2020".toList),
    (⟨"ScenarioName".toList, by decide, by decide⟩, "\"A\" & <B>".toList)], by simp⟩

/-- The tag of a log entry of the given type. -/
def entryTag (type : String) : StartTag where
  name := ⟨"LOG".toList, by decide, by decide⟩
  attributes := ⟨[(⟨"Type".toList, by decide, by decide⟩, type.toList)], by simp⟩

/-- A tag of the given name, without attributes. -/
def bareTag (name : Name) : StartTag := ⟨name, ⟨[], List.nodup_nil⟩⟩

/-- A group of two log entries and an assessment, and after it an entry of each other kind and an
assessment of which nothing is said:

`<group><LOG Type="Warning">a &lt; b<b>ü</b><![CDATA[]]]]><![CDATA[>]]></LOG>`
`<LOG Type="Invisible">c</LOG>`
`<assessmentvariable Value="3" Name="speed"><b>slow</b></assessmentvariable></group>`
`<LOG Type="customOUTPUT"/><log>d</log><LOG Type="note">e</LOG><LOG Type="ERROR">f</LOG>`
`<AssessmentVariable/>` -/
def sampleContent : Forest :=
  .element (bareTag ⟨"group".toList, by decide, by decide⟩)
    (.element (entryTag "Warning")
      (.data "a < b".toList <|
        .element (bareTag ⟨['b'], by decide, by decide⟩) (.data ['ü'] .nil) <|
        .sections [⟨"]]".toList, by decide +kernel⟩, ⟨['>'], by decide +kernel⟩] .nil) <|
    .element (entryTag "Invisible") (.data ['c'] .nil) <|
    .element ⟨⟨"assessmentvariable".toList, by decide, by decide⟩,
        ⟨[(⟨"Value".toList, by decide, by decide⟩, ['3']),
          (⟨"Name".toList, by decide, by decide⟩, "speed".toList)], by decide⟩⟩
      (.element (bareTag ⟨['b'], by decide, by decide⟩) (.data "slow".toList .nil) .nil) .nil) <|
  .empty (entryTag "customOUTPUT") <|
  .element (bareTag ⟨"log".toList, by decide, by decide⟩) (.data ['d'] .nil) <|
  .element (entryTag "note") (.data ['e'] .nil) <|
  .element (entryTag "ERROR") (.data ['f'] .nil) <|
  .empty (bareTag ⟨"AssessmentVariable".toList, by decide, by decide⟩) .nil

/-- A document with the given word for the outcome. -/
def sampleDocument (word : String) : Document where
  before := [.instruction ⟨"xml version=\"1.0\"".toList, by decide +kernel⟩, .data ['\n']]
  tag := sampleTag word
  content := some sampleContent
  after := [.comment ⟨" end ".toList, by decide +kernel⟩]
  root := rfl
  placed := by decide +kernel
  margin_before := by decide
  margin_after := by decide

/-- When the sample ran. -/
def sampleTime : DateTime := ⟨2020, 2, 1, 14, 5, 9, by decide⟩

/-- The result of the sample with the given outcome. The invisible entry is left out, and the
entries whose type says nothing are of no particular level. -/
def sampleResult (outcome : Outcome) : CaseResult where
  name := "\"A\" & <B>"
  id := -42
  configuration := ""
  platform := ""
  executedAt := some sampleTime
  duration := "0"
  outcome := outcome
  log := ⟨[⟨.warning, "a < bü]]>"⟩, ⟨.info, ""⟩, ⟨.all, "d"⟩, ⟨.all, "e"⟩, ⟨.error, "f"⟩]⟩
  assessments := [⟨some "speed", none, none, some "3", "slow"⟩, ⟨none, none, none, none, ""⟩]

theorem sampleDocument_result (word : String) (outcome : Outcome) :
    (sampleDocument word).result (-42) outcome (some sampleTime) = sampleResult outcome := by
  have hentries : sampleContent.entries = (sampleResult .success).log.entries := by
    decide +kernel
  have hassessments : sampleContent.assessments = (sampleResult .success).assessments := by
    decide +kernel
  simp only [Document.result, sampleDocument, Option.getD_some, hentries, hassessments]
  rfl

theorem sampleTag_describes {word : String} {outcome : Outcome} (h : NamesOutcome word outcome) :
    Describes (sampleTag word) (-42) outcome (some sampleTime) where
  low := by decide
  high := by decide
  id := ⟨[' '], ['\n'], by decide, by decide, by rfl⟩
  outcome := by
    have hvalue : valueOf? (sampleTag word) "Result" = some word :=
      congrArg some String.ofList_toList
    rw [hvalue]
    exact h
  date := by
    have hvalue : valueOf? (sampleTag word) "ExecDate" = some "14:05:09 01.02.2020" := rfl
    rw [hvalue]
    exact ⟨sampleTime, by decide +kernel, rfl⟩

/-- The word for the outcome can have capitals, and white space around it. -/
theorem parse_sampleDocument :
    parse (sampleDocument "Passed").bytes = .ok (sampleResult .success) ∧
      parse (sampleDocument "inConclusive\n").bytes = .ok (sampleResult .inconclusive) ∧
      parse (sampleDocument "failed").bytes = .ok (sampleResult .failed) ∧
      parse (sampleDocument "\tExecution_ERROR ").bytes = .ok (sampleResult .error) := by
  have hpassed : NamesOutcome "Passed" .success :=
    ⟨[], "Passed".toList, [], "passed", by decide, by decide, by decide, by decide, by decide⟩
  have hinconclusive : NamesOutcome "inConclusive\n" .inconclusive :=
    ⟨[], "inConclusive".toList, ['\n'], "inconclusive", by decide, by decide, by decide,
      by decide, by decide⟩
  have hfailed : NamesOutcome "failed" .failed :=
    ⟨[], "failed".toList, [], "failed", by decide, by decide, by decide, by decide, by decide⟩
  have herror : NamesOutcome "\tExecution_ERROR " .error :=
    ⟨['\t'], "Execution_ERROR".toList, [' '], "execution_error", by decide, by decide, by decide,
      by decide, by decide⟩
  rw [← sampleDocument_result "Passed" .success,
    ← sampleDocument_result "inConclusive\n" .inconclusive,
    ← sampleDocument_result "failed" .failed,
    ← sampleDocument_result "\tExecution_ERROR " .error]
  exact ⟨parse_document _ (sampleTag_describes hpassed),
    parse_document _ (sampleTag_describes hinconclusive),
    parse_document _ (sampleTag_describes hfailed), parse_document _ (sampleTag_describes herror)⟩

end CaseRunner.Report
