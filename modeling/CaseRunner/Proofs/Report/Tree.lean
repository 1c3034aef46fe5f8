import CaseRunner.Proofs.Report.Pieces
import CaseRunner.Proofs.Report.Words

/-!
# `CaseRunner.Proofs.Report.Tree`: what the content of an element says

A `Forest` is the content of an element. What it says is defined on the tree: the characters
in it at any depth, the log entries and the assessments, each in document order. Its pieces
are what is written.

* `opened_pieces`: the tags of a forest nest.
* `take_plain`: a forest without log entries and assessments adds its characters to those
  that are open.
* `take_content`: a forest in which log entries and assessments hold none of either adds its
  entries and its assessments to the result.
-/

set_option autoImplicit false

namespace CaseRunner.Report

open CaseRunner.Text
open CaseRunner.Markup (Name Passage Piece StartTag commentEnd instructionEnd sameLetters
  sectionEnd)

/-! ### Elements -/

/-- What an element is, by its name. -/
inductive Kind where
  /-- The root element. -/
  | root
  /-- A log entry. -/
  | entry
  /-- An assessment variable. -/
  | assessment
  /-- Any other element. -/
  | other
  deriving DecidableEq, Repr

/-- What an element is, by the bytes of its name. The case of letters does not count. -/
def kindOfBytes (name : Bytes) : Kind :=
  if Markup.sameIgnoringCase name (Markup.codes rootName) then .root
  else if Markup.sameIgnoringCase name (Markup.codes logName) then .entry
  else if Markup.sameIgnoringCase name (Markup.codes assessmentName) then .assessment
  else .other

/-- What an element of the given name is. The case of letters does not count. -/
def kindOf (name : Name) : Kind :=
  if sameLetters name.chars "TestcaseInformation".toList then .root
  else if sameLetters name.chars "Log".toList then .entry
  else if sameLetters name.chars "AssessmentVariable".toList then .assessment
  else .other

/-- The value of an attribute of a tag, by its key. -/
def valueOf? (tag : StartTag) (key : String) : Option String :=
  (tag.attributes.entries.find? (·.1.chars = key.toList)).map fun entry => String.ofList entry.2

/-- The log entry with the given text, if its type has a level. -/
def entriesOf (tag : StartTag) (text : List Char) : List LogEntry :=
  match levelNamed (valueOf? tag "Type") with
  | none => []
  | some level => [⟨level, String.ofList text⟩]

/-- The assessment with the given text. -/
def assessed (tag : StartTag) (text : List Char) : Assessment where
  name := valueOf? tag "Name"
  result := valueOf? tag "Result"
  type := valueOf? tag "Type"
  value := valueOf? tag "Value"
  message := String.ofList text

/-! ### Forests -/

/-- The content of an element: nothing, or a first part and what follows it. -/
inductive Forest where
  /-- No content. -/
  | nil
  /-- Character data. -/
  | data (text : List Char) (rest : Forest)
  /-- Character data, split into CDATA sections. -/
  | sections (passages : List (Passage [] sectionEnd)) (rest : Forest)
  /-- A comment. -/
  | comment (passage : Passage [] commentEnd) (rest : Forest)
  /-- A processing instruction. -/
  | instruction (passage : Passage ['?'] instructionEnd) (rest : Forest)
  /-- An element with a tag at its beginning and one at its end. -/
  | element (tag : StartTag) (content : Forest) (rest : Forest)
  /-- An element without content, as one tag. -/
  | empty (tag : StartTag) (rest : Forest)

namespace Forest

/-- The pieces of which a forest is written. -/
def pieces : Forest → List Piece
  | nil => []
  | data text rest => .data text :: rest.pieces
  | sections passages rest => passages.map .cdata ++ rest.pieces
  | comment passage rest => .comment passage :: rest.pieces
  | instruction passage rest => .instruction passage :: rest.pieces
  | element tag content rest =>
    .opening tag :: (content.pieces ++ .closing tag.name :: rest.pieces)
  | empty tag rest => .empty tag :: rest.pieces

/-- The characters at any depth, in order. -/
def characters : Forest → List Char
  | nil => []
  | data text rest => text ++ rest.characters
  | sections passages rest => passages.flatMap (·.text) ++ rest.characters
  | comment _ rest => rest.characters
  | instruction _ rest => rest.characters
  | element _ content rest => content.characters ++ rest.characters
  | empty _ rest => rest.characters

/-- The log entries that are to be recorded, in order. -/
def entries : Forest → List LogEntry
  | nil => []
  | data _ rest => rest.entries
  | sections _ rest => rest.entries
  | comment _ rest => rest.entries
  | instruction _ rest => rest.entries
  | element tag content rest =>
    (if kindOf tag.name = .entry then entriesOf tag content.characters else content.entries)
      ++ rest.entries
  | empty tag rest =>
    (if kindOf tag.name = .entry then entriesOf tag [] else []) ++ rest.entries

/-- The assessments, in order. -/
def assessments : Forest → List Assessment
  | nil => []
  | data _ rest => rest.assessments
  | sections _ rest => rest.assessments
  | comment _ rest => rest.assessments
  | instruction _ rest => rest.assessments
  | element tag content rest =>
    (if kindOf tag.name = .assessment then [assessed tag content.characters]
      else content.assessments) ++ rest.assessments
  | empty tag rest =>
    (if kindOf tag.name = .assessment then [assessed tag []] else []) ++ rest.assessments

/-- Whether all elements, at any depth, are of no kind in particular. -/
def plain : Forest → Bool
  | nil => true
  | data _ rest => rest.plain
  | sections _ rest => rest.plain
  | comment _ rest => rest.plain
  | instruction _ rest => rest.plain
  | element tag content rest => kindOf tag.name = .other && content.plain && rest.plain
  | empty tag rest => kindOf tag.name = .other && rest.plain

/-- Whether the forest can be the content of the root element: there is no other root
element, and log entries and assessments hold neither. -/
def wellPlaced : Forest → Bool
  | nil => true
  | data _ rest => rest.wellPlaced
  | sections _ rest => rest.wellPlaced
  | comment _ rest => rest.wellPlaced
  | instruction _ rest => rest.wellPlaced
  | element tag content rest =>
    (match kindOf tag.name with
      | .root => false
      | .entry => content.plain
      | .assessment => content.plain
      | .other => content.wellPlaced) && rest.wellPlaced
  | empty tag rest => kindOf tag.name ≠ .root && rest.wellPlaced

/-! ### Tags nest -/

theorem opened_sections (passages : List (Passage [] sectionEnd)) (names : List Name) :
    (passages.map Piece.cdata).foldlM Piece.opened names = some names := by
  induction passages with
  | nil => rfl
  | cons passage passages ih => exact ih

/-- A forest leaves the open elements as they are. -/
theorem opened_pieces (forest : Forest) (names : List Name) :
    forest.pieces.foldlM Piece.opened names = some names := by
  induction forest generalizing names with
  | nil => rfl
  | data text rest ih => exact ih names
  | sections passages rest ih =>
      rw [pieces, List.foldlM_append, opened_sections]
      exact ih names
  | comment passage rest ih => exact ih names
  | instruction passage rest ih => exact ih names
  | element tag content rest ihcontent ihrest =>
      -- The content is read with the element open, and leaves it open for its end tag.
      rw [pieces, List.foldlM_cons]
      show (content.pieces ++ _).foldlM Piece.opened (tag.name :: names) = _
      rw [List.foldlM_append, ihcontent]
      show (Piece.opened (tag.name :: names) (.closing tag.name) >>= _) = _
      rw [Piece.opened, if_pos rfl]
      exact ihrest names
  | empty tag rest ih => exact ih names

end Forest

/-! ### Collecting an element -/

/-- The kind of a name is that of its bytes. -/
theorem kindOfBytes_encode (name : Name) : kindOfBytes (encode name.chars) = kindOf name := by
  have hsame {word : String} (hcodes : Markup.codes word = encode word.toList) :
      Markup.sameIgnoringCase (encode name.chars) (Markup.codes word) =
        decide (sameLetters name.chars word.toList) := by
    rw [hcodes, Markup.sameIgnoringCase_encode]
  rw [kindOfBytes, hsame rfl, hsame rfl, hsame rfl, kindOf, rootName, logName, assessmentName]
  simp only [decide_eq_true_eq]

/-- The attributes of a tag are looked up in characters. -/
theorem get?_textsOf (tag : StartTag) (key : String) :
    (textsOf tag).get? key = valueOf? tag key := by
  have hkey (entry : Name × List Char) :
      decide (String.ofList entry.1.chars = key) = decide (entry.1.chars = key.toList) := by
    refine decide_eq_decide.mpr ?_
    rw [← String.toList_inj, String.toList_ofList]
  rw [Attributes.get?, textsOf, List.find?_map, Option.map_map, valueOf?]
  simp only [Function.comp_def, hkey]

namespace Collector

/-- What the beginning of an element does depends on its kind. -/
theorem openElement_eq (c : Collector) (name : Bytes) (attributes : Attributes) :
    c.openElement name attributes =
      match kindOfBytes name with
      | .root => (rootResult attributes).map fun result => { c with result := some result }
      | .entry => .ok { c with entry := some ⟨levelOfType (attributes.get? "Type"), ""⟩ }
      | .assessment => .ok { c with assessment := some (assessmentOf attributes) }
      | .other => .ok c := by
  rw [openElement, kindOfBytes]
  by_cases hroot : Markup.sameIgnoringCase name (Markup.codes rootName) = true
  · simp [hroot]
  by_cases hlog : Markup.sameIgnoringCase name (Markup.codes logName) = true
  · simp [hroot, hlog]
  by_cases hassessment : Markup.sameIgnoringCase name (Markup.codes assessmentName) = true <;>
    simp [hroot, hlog, hassessment]

/-- What the end of an element does depends on its kind. -/
theorem closeElement_eq (c : Collector) (name : Bytes) :
    c.closeElement name =
      match kindOfBytes name with
      | .root => c
      | .entry => c.closeEntry
      | .assessment => c.closeAssessment
      | .other => c := by
  rw [closeElement, kindOfBytes]
  by_cases hroot : Markup.sameIgnoringCase name (Markup.codes rootName) = true
  · -- The name of the root element is neither of the other two.
    have hother {word : String}
        (hne : (Markup.codes rootName).map Markup.lowerCode ≠
          (Markup.codes word).map Markup.lowerCode) :
        ¬Markup.sameIgnoringCase name (Markup.codes word) = true := fun h =>
      hne ((of_decide_eq_true hroot).symm.trans (of_decide_eq_true h))
    rw [if_pos hroot, if_neg (hother (by decide)), if_neg (hother (by decide))]
  by_cases hlog : Markup.sameIgnoringCase name (Markup.codes logName) = true
  · simp [hroot, hlog]
  by_cases hassessment : Markup.sameIgnoringCase name (Markup.codes assessmentName) = true <;>
    simp [hroot, hlog, hassessment]

theorem openElement_kind (c : Collector) (name : Name) (attributes : Attributes) :
    c.openElement (encode name.chars) attributes =
      match kindOf name with
      | .root => (rootResult attributes).map fun result => { c with result := some result }
      | .entry => .ok { c with entry := some ⟨levelOfType (attributes.get? "Type"), ""⟩ }
      | .assessment => .ok { c with assessment := some (assessmentOf attributes) }
      | .other => .ok c := by
  rw [openElement_eq, kindOfBytes_encode]

theorem closeElement_kind (c : Collector) (name : Name) :
    c.closeElement (encode name.chars) =
      match kindOf name with
      | .root => c
      | .entry => c.closeEntry
      | .assessment => c.closeAssessment
      | .other => c := by
  rw [closeElement_eq, kindOfBytes_encode]

/-- The pieces of an element are its tags and what is between them. -/
theorem take_element {tag : StartTag} {content rest : Forest} {c inside after : Collector}
    (hopen : c.openElement (encode tag.name.chars) (textsOf tag) = .ok inside)
    (hcontent : content.pieces.foldlM take inside = .ok after) :
    (Forest.element tag content rest).pieces.foldlM take c =
      rest.pieces.foldlM take (after.closeElement (encode tag.name.chars)) := by
  rw [Forest.pieces, List.foldlM_cons, take, hopen]
  show (content.pieces ++ _).foldlM take inside = _
  rw [List.foldlM_append, hcontent]
  rfl

/-- An element without content is collected alike, whether it has one tag or two. -/
theorem take_empty (tag : StartTag) (rest : Forest) (c : Collector) :
    (Forest.empty tag rest).pieces.foldlM take c =
      (Forest.element tag .nil rest).pieces.foldlM take c := by
  rw [Forest.pieces, Forest.pieces, Forest.pieces, List.nil_append, List.foldlM_cons,
    List.foldlM_cons, take, take]
  cases c.openElement (encode tag.name.chars) (textsOf tag) <;> rfl

/-- Sections add the characters of all of them. -/
theorem take_sections (passages : List (Passage [] sectionEnd)) (c : Collector) :
    (passages.map Piece.cdata).foldlM take c =
      .ok (c.addText (String.ofList (passages.flatMap (·.text)))) := by
  induction passages generalizing c with
  | nil => exact congrArg Except.ok (addText_empty c).symm
  | cons passage passages ih =>
      rw [List.flatMap_cons, String.ofList_append, ← addText_addText]
      exact ih _

theorem take_nil (c : Collector) :
    Forest.nil.pieces.foldlM take c = .ok (c.addText (String.ofList Forest.nil.characters)) :=
  congrArg Except.ok (addText_empty c).symm

theorem take_plain_element {tag : StartTag} {content rest : Forest}
    (hkind : kindOf tag.name = .other)
    (hcontent : ∀ c, content.pieces.foldlM take c =
      .ok (addText c (String.ofList content.characters)))
    (hrest : ∀ c, rest.pieces.foldlM take c = .ok (addText c (String.ofList rest.characters)))
    (c : Collector) : (Forest.element tag content rest).pieces.foldlM take c =
      .ok (c.addText (String.ofList (content.characters ++ rest.characters))) := by
  have hopen := c.openElement_kind tag.name (textsOf tag)
  rw [hkind] at hopen
  rw [take_element hopen (hcontent c), closeElement_kind, hkind, String.ofList_append,
    ← addText_addText]
  exact hrest _

/-- A forest without entries and assessments adds its characters to those that are open. -/
theorem take_plain {forest : Forest} (h : forest.plain = true) (c : Collector) :
    forest.pieces.foldlM take c = .ok (c.addText (String.ofList forest.characters)) := by
  induction forest generalizing c with
  | nil => exact take_nil c
  | data text rest ih =>
      rw [Forest.characters, String.ofList_append, ← addText_addText]
      exact ih h _
  | sections passages rest ih =>
      rw [Forest.pieces, List.foldlM_append, take_sections, Forest.characters,
        String.ofList_append, ← addText_addText]
      exact ih h _
  | comment passage rest ih => exact ih h c
  | instruction passage rest ih => exact ih h c
  | element tag content rest ihcontent ihrest =>
      simp only [Forest.plain, Bool.and_eq_true, decide_eq_true_eq] at h
      exact take_plain_element h.1.1 (ihcontent h.1.2) (ihrest h.2) c
  | empty tag rest ih =>
      simp only [Forest.plain, Bool.and_eq_true, decide_eq_true_eq] at h
      rw [take_empty]
      exact take_plain_element h.1 take_nil (ih h.2) c

end Collector

theorem Forest.entries_plain {forest : Forest} (h : forest.plain = true) :
    forest.entries = [] := by
  induction forest with
  | nil => rfl
  | data _ rest ih | sections _ rest ih | comment _ rest ih | instruction _ rest ih => exact ih h
  | element tag content rest ihcontent ihrest =>
      simp only [plain, Bool.and_eq_true, decide_eq_true_eq] at h
      obtain ⟨⟨hkind, hcontent⟩, hrest⟩ := h
      rw [entries, hkind, if_neg (by decide), ihcontent hcontent, ihrest hrest]
      rfl
  | empty tag rest ih =>
      simp only [plain, Bool.and_eq_true, decide_eq_true_eq] at h
      rw [entries, h.1, if_neg (by decide), ih h.2]
      rfl

theorem Forest.assessments_plain {forest : Forest} (h : forest.plain = true) :
    forest.assessments = [] := by
  induction forest with
  | nil => rfl
  | data _ rest ih | sections _ rest ih | comment _ rest ih | instruction _ rest ih => exact ih h
  | element tag content rest ihcontent ihrest =>
      simp only [plain, Bool.and_eq_true, decide_eq_true_eq] at h
      obtain ⟨⟨hkind, hcontent⟩, hrest⟩ := h
      rw [assessments, hkind, if_neg (by decide), ihcontent hcontent, ihrest hrest]
      rfl
  | empty tag rest ih =>
      simp only [plain, Bool.and_eq_true, decide_eq_true_eq] at h
      rw [assessments, h.1, if_neg (by decide), ih h.2]
      rfl

/-! ### Collecting the content of the root element -/

/-- The result with more entries and assessments after those it has. -/
def CaseResult.adding (r : CaseResult) (entries : List LogEntry)
    (assessments : List Assessment) : CaseResult :=
  { r with
    log := ⟨r.log.entries ++ entries⟩
    assessments := r.assessments ++ assessments }

@[simp] theorem CaseResult.adding_nil (r : CaseResult) : r.adding [] [] = r := by
  simp [adding]

theorem CaseResult.adding_adding (r : CaseResult) (e₁ e₂ : List LogEntry)
    (a₁ a₂ : List Assessment) :
    (r.adding e₁ a₁).adding e₂ a₂ = r.adding (e₁ ++ e₂) (a₁ ++ a₂) := by
  simp [adding, List.append_assoc]

namespace Collector

/-- The collector has a result, and no log entry and no assessment is open. -/
structure Within (c : Collector) (r : CaseResult) : Prop where
  /-- The result so far. -/
  result : c.result = some r
  /-- No log entry is open. -/
  entry : c.entry = none
  /-- No assessment is open. -/
  assessment : c.assessment = none

variable {c : Collector} {r : CaseResult}

/-- Characters outside entries and assessments are passed over. -/
theorem Within.addText (h : c.Within r) (text : String) : (c.addText text).Within r where
  result := h.result
  entry := by rw [Collector.addText, h.entry]; rfl
  assessment := by rw [Collector.addText, h.assessment]; rfl

/-- A log entry is recorded at its end if its type has a level. -/
theorem Within.closeEntry (h : c.Within r) (tag : StartTag) (text : List Char) :
    (Collector.closeEntry (Collector.addText
      { c with entry := some ⟨levelOfType ((textsOf tag).get? "Type"), ""⟩ }
      (String.ofList text))).Within (r.adding (entriesOf tag text) []) := by
  have hempty : "" ++ String.ofList text = String.ofList text := String.empty_append
  rw [Collector.addText, Collector.closeEntry, entriesOf, get?_textsOf, levelOfType_eq]
  cases levelNamed (valueOf? tag "Type") with
  | none =>
      rw [CaseResult.adding_nil]
      exact ⟨h.result, rfl, by rw [h.assessment]; rfl⟩
  | some level =>
      rw [h.result]
      refine ⟨?_, rfl, by rw [h.assessment]; rfl⟩
      simp [CaseResult.adding, Log.push, hempty]

/-- An assessment is recorded at its end. -/
theorem Within.closeAssessment (h : c.Within r) (tag : StartTag) (text : List Char) :
    (Collector.closeAssessment (Collector.addText
      { c with assessment := some (assessmentOf (textsOf tag)) }
      (String.ofList text))).Within (r.adding [] [assessed tag text]) := by
  have hempty : "" ++ String.ofList text = String.ofList text := String.empty_append
  rw [Collector.addText, Collector.closeAssessment, h.result]
  refine ⟨?_, by rw [h.entry]; rfl, rfl⟩
  simp [CaseResult.adding, assessed, assessmentOf, get?_textsOf, hempty]

/-- Within the root element, the forest adds its entries and its assessments to the result. -/
def Collects (forest : Forest) : Prop :=
  ∀ ⦃c r⦄, Within c r → ∃ d, forest.pieces.foldlM take c = .ok d ∧
    d.Within (r.adding forest.entries forest.assessments)

/-- What an element adds, and then what follows it. -/
theorem Collects.after {rest : Forest} {d : Collector} {entries : List LogEntry}
    {assessments : List Assessment} (hrest : Collects rest)
    (h : d.Within (r.adding entries assessments)) :
    ∃ e, rest.pieces.foldlM take d = .ok e ∧
      e.Within (r.adding (entries ++ rest.entries) (assessments ++ rest.assessments)) := by
  obtain ⟨e, htake, he⟩ := hrest h
  rw [CaseResult.adding_adding] at he
  exact ⟨e, htake, he⟩

/-- An element adds its entry, its assessment or what its content adds. -/
theorem collects_element {tag : StartTag} {content rest : Forest}
    (h : (Forest.element tag content rest).wellPlaced = true)
    (hcontent : content.wellPlaced = true → Collects content)
    (hrest : rest.wellPlaced = true → Collects rest) :
    Collects (.element tag content rest) := by
  intro c r hc
  rw [Forest.wellPlaced, Bool.and_eq_true] at h
  obtain ⟨hplaced, hlater⟩ := h
  have hopen := c.openElement_kind tag.name (textsOf tag)
  rw [Forest.entries, Forest.assessments]
  -- In an entry or an assessment the content only adds characters, elsewhere it is collected
  -- as the content of the root element is.
  cases hkind : kindOf tag.name with
  | root =>
      rw [hkind] at hplaced
      exact absurd hplaced Bool.false_ne_true
  | entry =>
      rw [hkind] at hplaced hopen
      rw [take_element hopen (take_plain hplaced _), closeElement_kind, hkind, if_pos rfl,
        if_neg (by decide), Forest.assessments_plain hplaced]
      exact (hrest hlater).after (hc.closeEntry tag _)
  | assessment =>
      rw [hkind] at hplaced hopen
      rw [take_element hopen (take_plain hplaced _), closeElement_kind, hkind,
        if_neg (by decide), if_pos rfl, Forest.entries_plain hplaced]
      exact (hrest hlater).after (hc.closeAssessment tag _)
  | other =>
      rw [hkind] at hplaced hopen
      obtain ⟨inside, htake, hinside⟩ := hcontent hplaced hc
      rw [take_element hopen htake, closeElement_kind, hkind, if_neg (by decide),
        if_neg (by decide)]
      exact (hrest hlater).after hinside

theorem collects_nil : Collects .nil := by
  intro c r hc
  refine ⟨c, rfl, ?_⟩
  rw [Forest.entries, Forest.assessments, CaseResult.adding_nil]
  exact hc

/-- A forest that can be the content of the root element adds its entries and its
assessments to the result. -/
theorem take_content {forest : Forest} (h : forest.wellPlaced = true) : Collects forest := by
  induction forest with
  | nil => exact collects_nil
  | data text rest ih => exact fun _ _ hc => ih h (hc.addText _)
  | sections passages rest ih =>
      intro c r hc
      rw [Forest.pieces, List.foldlM_append, take_sections]
      exact ih h (hc.addText _)
  | comment passage rest ih => exact ih h
  | instruction passage rest ih => exact ih h
  | element tag content rest ihcontent ihrest => exact collects_element h ihcontent ihrest
  | empty tag rest ih =>
      -- One tag or two make no difference, so this is an element around nothing.
      intro c r hc
      have hplaced : (Forest.element tag .nil rest).wellPlaced = true := by
        simp only [Forest.wellPlaced, Bool.and_eq_true, decide_eq_true_eq] at h ⊢
        refine ⟨?_, h.2⟩
        cases hkind : kindOf tag.name with
        | root => exact absurd hkind h.1
        | _ => rfl
      have hsame := collects_element hplaced (fun _ => collects_nil) ih hc
      rw [← take_empty, Forest.entries, Forest.assessments] at hsame
      exact hsame

end Collector

end CaseRunner.Report
