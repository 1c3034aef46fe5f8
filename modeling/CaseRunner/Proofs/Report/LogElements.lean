import CaseRunner.Proofs.Markup.Nesting
import CaseRunner.Proofs.Report.Tree
import CaseRunner.Proofs.Report.Truncation

/-!
# `CaseRunner.Proofs.Report.LogElements`: which log elements are recorded

The log elements of a document stand anywhere in its tree. `logElements` lists them with what
decides about each: its type, and where it stands with regard to the root element and to other
log elements.

The collector has one place for an open log entry, and it never takes note of the end of the
root element. So it records a log element with a level if the root element begins before the
log element ends and no other log element stands in it (`parse_logElements`). Compared with the
visible log elements inside the root element, those that hold another one are missing, and
those after the root element or around it are there in addition (`parse_other_logs`).
-/

set_option autoImplicit false

namespace CaseRunner.Report

open CaseRunner.Text
open CaseRunner.Markup (Closed Content Event Tag codes contentText read)

/-! ### Log elements -/

/-- Whether the tag is that of a root element. -/
def isRoot (tag : Tag) : Bool := kindOfBytes tag.name = .root

/-- Whether the tag is that of a log element. -/
def isLog (tag : Tag) : Bool := kindOfBytes tag.name = .entry

/-- Whether the tag is that of an assessment variable's element. -/
def isAssessment (tag : Tag) : Bool := kindOfBytes tag.name = .assessment

/-- The type that a tag gives. -/
def typeOf? (tag : Tag) : Option String :=
  match readAttributes tag with
  | .error _ => none
  | .ok attributes => attributes.get? "Type"

/-- Only the type "invisible" has no level, whatever the case of its letters. -/
theorem levelOfType_eq_none {type : Option String} :
    levelOfType type = none ↔ type.map lowered = some "invisible" := by
  cases type with
  | none => simp [levelOfType]
  | some type =>
      rw [levelOfType]
      split <;> simp_all

/-- A log element of a document. -/
structure LogElement where
  /-- The type. -/
  type : Option String
  /-- The characters in it, at any depth. -/
  text : String
  /-- Whether it stands inside the root element. -/
  inside : Bool
  /-- Whether the root element begins before it ends. -/
  late : Bool
  /-- Whether another log element stands in it. -/
  holding : Bool
  deriving DecidableEq, Repr

namespace LogElement

/-- The entry that is recorded for the element, if any. -/
def entry? (e : LogElement) : Option LogEntry :=
  if e.late && !e.holding then (levelOfType e.type).map fun level => ⟨level, e.text⟩ else none

/-- Whether the type says something else than that the element is invisible. -/
def visible (e : LogElement) : Bool := e.type.map lowered ≠ some "invisible"

/-- Whether the element is visible and inside the root element. -/
def wanted (e : LogElement) : Bool := e.visible && e.inside

/-- Whether the element is wanted, and yet not recorded. -/
def missed (e : LogElement) : Bool := e.wanted && e.holding

/-- Whether the element is recorded, and yet not inside the root element. -/
def stray (e : LogElement) : Bool := e.visible && !e.inside && e.late && !e.holding

/-- A log element has a level if it is visible. -/
theorem isSome_levelOfType (e : LogElement) : (levelOfType e.type).isSome = e.visible := by
  rw [visible, Bool.eq_iff_iff, Option.isSome_iff_ne_none, Ne, levelOfType_eq_none,
    decide_eq_true_iff]

/-- An element is recorded if it is visible, ends after the root element begins and holds no
other log element. -/
theorem entry_isSome (e : LogElement) :
    e.entry?.isSome = (e.visible && e.late && !e.holding) := by
  rw [← e.isSome_levelOfType, entry?]
  cases levelOfType e.type <;> cases e.late <;> cases e.holding <;> rfl

/-- An element counts for as many recorded and missed ones as for wanted and stray ones. -/
theorem counts {e : LogElement} (h : e.inside = true → e.late = true) :
    ((if e.entry?.isSome then 1 else 0) + if e.missed then 1 else 0) =
      (if e.wanted then 1 else 0) + if e.stray then 1 else 0 := by
  rw [entry_isSome, missed, stray, wanted]
  cases hinside : e.inside with
  | false => simp
  | true =>
      rw [h hinside]
      cases e.visible <;> cases e.holding <;> rfl

end LogElement

/-- The number of root elements. -/
def rootCount : Content → Nat
  | .nil => 0
  | .text _ rest => rootCount rest
  | .cdata _ rest => rootCount rest
  | .element tag content rest => (isRoot tag).toNat + rootCount content + rootCount rest
  | .empty tag rest => (isRoot tag).toNat + rootCount rest

/-- Whether there is a root element. -/
def holdsRoot (content : Content) : Bool := rootCount content ≠ 0

/-- Whether there is a log element. -/
def holdsLog : Content → Bool
  | .nil => false
  | .text _ rest => holdsLog rest
  | .cdata _ rest => holdsLog rest
  | .element tag content rest => isLog tag || holdsLog content || holdsLog rest
  | .empty tag rest => isLog tag || holdsLog rest

/-- The characters at any depth, in order. -/
def charactersOf : Content → String
  | .nil => ""
  | .text raw rest => textOf raw ++ charactersOf rest
  | .cdata raw rest => decodeStringLossy raw ++ charactersOf rest
  | .element _ content rest => charactersOf content ++ charactersOf rest
  | .empty _ rest => charactersOf rest
where
  /-- Character data without its references. -/
  textOf (raw : Bytes) : String :=
    match contentText raw with
    | .error _ => ""
    | .ok text => String.ofList text

/-- The element of the given tag, if it is a log element. -/
def logOf (tag : Tag) (text : String) (inside late holding : Bool) : List LogElement :=
  if isLog tag then [⟨typeOf? tag, text, inside, late, holding⟩] else []

/-- The log elements in document order, of a content that stands inside the root element or
not, and that the beginning of the root element comes before or not. -/
def logElements (inside started : Bool) : Content → List LogElement
  | .nil => []
  | .text _ rest => logElements inside started rest
  | .cdata _ rest => logElements inside started rest
  | .element tag content rest =>
    let begun := started || isRoot tag
    let after := begun || holdsRoot content
    logOf tag (charactersOf content) inside after (holdsLog content)
      ++ logElements (inside || isRoot tag) begun content
      ++ logElements inside after rest
  | .empty tag rest =>
    let after := started || isRoot tag
    logOf tag "" inside after false ++ logElements inside after rest

theorem holdsRoot_element (tag : Tag) (content rest : Content) :
    holdsRoot (.element tag content rest) =
      (isRoot tag || holdsRoot content || holdsRoot rest) := by
  cases h : isRoot tag <;> simp [holdsRoot, rootCount, h]

/-- If the root element begins at most once, it does so before an element, at its tag, in it or
after it. -/
theorem once_of_element {tag : Tag} {content rest : Content} {started : Bool}
    (h : rootCount (.element tag content rest) + started.toNat ≤ 1) :
    (isRoot tag = true → started = false) ∧
      rootCount content + (started || isRoot tag).toNat ≤ 1 ∧
      rootCount rest + (started || isRoot tag || holdsRoot content).toNat ≤ 1 := by
  rw [rootCount] at h
  rw [holdsRoot]
  by_cases hcontent : rootCount content = 0 <;> cases hroot : isRoot tag <;> cases started <;>
    simp_all <;> omega

/-- Without a log element there is none to list. -/
theorem logElements_eq_nil {content : Content} (h : holdsLog content = false)
    (inside started : Bool) : logElements inside started content = [] := by
  induction content generalizing inside started with
  | nil => rfl
  | text raw rest ih | cdata raw rest ih => exact ih h inside started
  | element tag content rest ihcontent ihrest =>
      simp only [holdsLog, Bool.or_eq_false_iff] at h
      simp [logElements, logOf, h.1.1, ihcontent h.1.2, ihrest h.2]
  | empty tag rest ih =>
      simp only [holdsLog, Bool.or_eq_false_iff] at h
      simp [logElements, logOf, h.1, ih h.2]

/-- An element as one tag is an element without content. -/
theorem logElements_empty (inside started : Bool) (tag : Tag) (rest : Content) :
    logElements inside started (.empty tag rest) =
      logElements inside started (.element tag .nil rest) := by
  simp [logElements, holdsRoot, rootCount, charactersOf, holdsLog]

theorem entries_logOf (tag : Tag) (text : String) (inside late holding : Bool) :
    (logOf tag text inside late holding).filterMap LogElement.entry? =
      if isLog tag then
        (LogElement.entry? ⟨typeOf? tag, text, inside, late, holding⟩).toList
      else [] := by
  rw [logOf]
  cases isLog tag with
  | false => rfl
  | true =>
      cases h : LogElement.entry? ⟨typeOf? tag, text, inside, late, holding⟩ <;> simp [h]

/-- A log element that is recorded holds no other one, so it makes no difference whether the
entries are in the order of the beginnings or of the ends of their elements. -/
theorem entries_logElements (inside started : Bool) (tag : Tag) (content rest : Content) :
    (logElements inside started (.element tag content rest)).filterMap LogElement.entry? =
      (logElements (inside || isRoot tag) (started || isRoot tag) content).filterMap
          LogElement.entry?
        ++ (logOf tag (charactersOf content) inside (started || isRoot tag || holdsRoot content)
          (holdsLog content)).filterMap LogElement.entry?
        ++ (logElements inside (started || isRoot tag || holdsRoot content) rest).filterMap
          LogElement.entry? := by
  rw [logElements, List.filterMap_append, List.filterMap_append]
  congr 1
  cases hholds : holdsLog content with
  | false => simp [logElements_eq_nil hholds]
  | true => simp [entries_logOf, LogElement.entry?]

/-! ### What the collector knows of the log -/

namespace Collector

variable {c d m opened : Collector} {tag : Tag} {attributes : Attributes} {content rest : Content}
  {inside : Bool}

/-- Whether the root element has begun. -/
def started (c : Collector) : Bool := c.result.isSome

/-- The entries recorded so far. -/
def entries (c : Collector) : List LogEntry := (c.result.map (·.log.entries)).getD []

/-- The entry that is recorded if the open log entry ends, if any. -/
def ending (c : Collector) : Option LogEntry :=
  if c.started then c.entry.bind fun e => e.level.map fun level => ⟨level, e.text⟩ else none

/-- The result begins with an empty log. -/
theorem log_rootResult {result : CaseResult} (h : rootResult attributes = .ok result) :
    result.log = .empty := by
  simp only [rootResult, bind, Except.bind, pure, Except.pure] at h
  (repeat' split at h) <;> cases h
  all_goals rfl

/-- The beginning of a log element or of a variable opens one, and that of another element
leaves what is open. -/
theorem slots_openElement (hread : readAttributes tag = .ok attributes)
    (hopen : c.openElement tag.name attributes = .ok opened) :
    (opened.entry = if isLog tag then some ⟨levelOfType (typeOf? tag), ""⟩ else c.entry) ∧
      opened.assessment = if isAssessment tag then some (assessmentOf attributes)
        else c.assessment := by
  rw [openElement_eq] at hopen
  rw [isLog, isAssessment, typeOf?, hread]
  cases hkind : kindOfBytes tag.name with
  | root =>
      rw [hkind] at hopen
      cases hresult : rootResult attributes with
      | error fault =>
          rw [hresult] at hopen
          cases hopen
      | ok result =>
          rw [hresult] at hopen
          cases hopen
          exact ⟨rfl, rfl⟩
  | entry | assessment | other =>
      rw [hkind] at hopen
      cases hopen
      exact ⟨rfl, rfl⟩

/-- The end of a log element or of a variable leaves none open. -/
theorem slots_closeElement (m : Collector) (tag : Tag) :
    ((m.closeElement tag.name).entry = if isLog tag then none else m.entry) ∧
      (m.closeElement tag.name).assessment =
        if isAssessment tag then none else m.assessment := by
  rw [closeElement_eq, isLog, isAssessment]
  cases kindOfBytes tag.name with
  | entry =>
      obtain ⟨result, entry, assessment, notes⟩ := m
      rcases entry with _ | ⟨_ | level, text⟩ <;> rcases result with _ | result <;>
        simp [closeEntry]
  | assessment =>
      obtain ⟨result, entry, assessment, notes⟩ := m
      cases assessment <;> cases result <;> simp [closeAssessment]
  | root | other => exact ⟨rfl, rfl⟩

/-- The beginning of an element begins the result or a log entry, and records nothing. -/
theorem opened_of_openElement (hread : readAttributes tag = .ok attributes)
    (hopen : c.openElement tag.name attributes = .ok opened)
    (honce : isRoot tag = true → c.started = false) :
    opened.started = (c.started || isRoot tag) ∧ opened.entries = c.entries ∧
      opened.entry = if isLog tag then some ⟨levelOfType (typeOf? tag), ""⟩ else c.entry := by
  rw [← and_assoc]
  refine ⟨?_, (slots_openElement hread hopen).1⟩
  rw [openElement_eq] at hopen
  rw [isRoot] at honce ⊢
  cases hkind : kindOfBytes tag.name with
  | root =>
      rw [hkind] at hopen honce
      cases hresult : rootResult attributes with
      | error fault =>
          rw [hresult] at hopen
          cases hopen
      | ok result =>
          rw [hresult] at hopen
          cases hopen
          -- The root element begins once, so nothing was recorded before.
          have hbefore : c.result = none := Option.isNone_iff_eq_none.mp (by
            rw [← Option.not_isSome]
            exact congrArg (!·) (honce rfl))
          refine ⟨(Bool.or_true _).symm, ?_⟩
          rw [entries, entries, hbefore, Option.map_some, log_rootResult hresult]
          rfl
  | entry | assessment | other =>
      rw [hkind] at hopen
      cases hopen
      exact ⟨(Bool.or_false _).symm, rfl⟩

/-- The end of a log element records its entry, and that of another element nothing. -/
theorem closed_closeElement (m : Collector) (tag : Tag) :
    (m.closeElement tag.name).started = m.started ∧
      (m.closeElement tag.name).entries =
        m.entries ++ (if isLog tag then m.ending.toList else []) ∧
      (m.closeElement tag.name).entry = if isLog tag then none else m.entry := by
  rw [← and_assoc]
  refine ⟨?_, (m.slots_closeElement tag).1⟩
  rw [closeElement_eq, isLog]
  cases kindOfBytes tag.name with
  | entry =>
      obtain ⟨result, entry, assessment, notes⟩ := m
      rcases entry with _ | ⟨_ | level, text⟩ <;> rcases result with _ | result <;>
        simp [closeEntry, started, entries, ending, Log.push]
  | assessment =>
      obtain ⟨result, entry, assessment, notes⟩ := m
      cases assessment <;> cases result <;> simp [closeAssessment, started, entries]
  | root | other => exact ⟨rfl, (List.append_nil _).symm⟩

/-- From `c` to `d` a content was read: the root element has begun if it had or is in it, its
log elements were recorded, and it went to the open entry unless another one was opened. -/
structure Reads (inside : Bool) (content : Content) (c d : Collector) : Prop where
  /-- Whether the root element has begun. -/
  started : d.started = (c.started || holdsRoot content)
  /-- What was recorded. -/
  entries : d.entries =
    c.entries ++ (logElements inside c.started content).filterMap LogElement.entry?
  /-- The open log entry. -/
  entry : d.entry = if holdsLog content then none else
    c.entry.map fun e => { e with text := e.text ++ charactersOf content }

theorem Reads.nil (inside : Bool) (c : Collector) : Reads inside .nil c c where
  started := (Bool.or_false _).symm
  entries := (List.append_nil _).symm
  entry := by simp [holdsLog, charactersOf]

/-- Character data goes to the open log entry, with what follows it. -/
theorem Reads.afterText {first : String} {part : Content}
    (h : Reads inside rest (c.addText first) d)
    (hroot : holdsRoot part = holdsRoot rest) (hholds : holdsLog part = holdsLog rest)
    (hlogs : logElements inside c.started part = logElements inside c.started rest)
    (hcharacters : charactersOf part = first ++ charactersOf rest) : Reads inside part c d where
  started := by rw [h.started, hroot]; rfl
  entries := by rw [h.entries, hlogs]; rfl
  entry := by
    rw [h.entry, hholds, hcharacters]
    simp [addText, Function.comp_def, String.append_assoc]

/-- What an element records, from what its content and what follows it do. -/
theorem Reads.element (hread : readAttributes tag = .ok attributes)
    (hopen : c.openElement tag.name attributes = .ok opened)
    (honce : rootCount (.element tag content rest) + c.started.toNat ≤ 1)
    (hcontent : rootCount content + opened.started.toNat ≤ 1 →
      Reads (inside || isRoot tag) content opened m)
    (hrest : rootCount rest + (m.closeElement tag.name).started.toNat ≤ 1 →
      Reads inside rest (m.closeElement tag.name) d) :
    Reads inside (.element tag content rest) c d := by
  obtain ⟨honce, honceContent, honceRest⟩ := once_of_element honce
  obtain ⟨hopenedStarted, hopenedEntries, hopenedEntry⟩ := opened_of_openElement hread hopen honce
  obtain ⟨hclosedStarted, hclosedEntries, hclosedEntry⟩ := m.closed_closeElement tag
  replace hcontent := hcontent (by rwa [hopenedStarted])
  have hafter : (m.closeElement tag.name).started =
      (c.started || isRoot tag || holdsRoot content) := by
    rw [hclosedStarted, hcontent.started, hopenedStarted]
  replace hrest := hrest (by rwa [hafter])
  have hrestStarted := hrest.started
  have hrestEntries := hrest.entries
  have hrestEntry := hrest.entry
  rw [hafter] at hrestStarted hrestEntries
  rw [hclosedEntries, hcontent.entries, hopenedEntries, hopenedStarted] at hrestEntries
  rw [hclosedEntry, hcontent.entry, hopenedEntry] at hrestEntry
  -- The end tag finds the entry that its start tag opened, with all characters in between, unless
  -- another log element in the content took its place.
  have hending : (if isLog tag then m.ending.toList else []) =
      (logOf tag (charactersOf content) inside (c.started || isRoot tag || holdsRoot content)
        (holdsLog content)).filterMap LogElement.entry? := by
    rw [entries_logOf, ending, hcontent.started, hopenedStarted, hcontent.entry, hopenedEntry]
    cases isLog tag <;> cases holdsLog content <;> simp [LogElement.entry?]
  refine ⟨?_, ?_, ?_⟩
  · rw [hrestStarted, holdsRoot_element]
    simp only [Bool.or_assoc]
  · rw [hrestEntries, hending, entries_logElements]
    simp only [List.append_assoc]
  · rw [hrestEntry, holdsLog, charactersOf]
    cases isLog tag <;> cases holdsLog content <;> cases holdsLog rest <;>
      simp [Function.comp_def, String.append_assoc]

/-- An element as one tag records what an element without content does. -/
theorem Reads.asEmpty (h : Reads inside (.element tag .nil rest) c d) :
    Reads inside (.empty tag rest) c d where
  started := h.started
  entries := by rw [logElements_empty, h.entries]
  entry := by
    rw [h.entry]
    simp [holdsLog, charactersOf]

/-- What a content records, by induction on the content. There is at most one root element, so
the result begins once. -/
theorem reads_of_run (h : c.run content.events = (d, none))
    (honce : rootCount content + c.started.toNat ≤ 1) (inside : Bool) :
    Reads inside content c d := by
  induction content generalizing c d inside with
  | nil =>
      cases h
      exact .nil inside c
  | text raw rest ih =>
      obtain ⟨next, hstep, hrest⟩ := ok_of_run_cons h
      obtain ⟨text, htext, hnext⟩ := ok_of_bind hstep
      cases hnext
      refine (ih hrest honce inside).afterText rfl rfl rfl ?_
      cases hcontent : contentText raw with
      | error fault =>
          rw [hcontent] at htext
          cases htext
      | ok characters =>
          rw [hcontent] at htext
          cases htext
          rw [charactersOf, charactersOf.textOf, hcontent]
  | cdata raw rest ih =>
      obtain ⟨next, hstep, hrest⟩ := ok_of_run_cons h
      cases hstep
      exact (ih hrest honce inside).afterText rfl rfl rfl rfl
  | element tag content rest ihcontent ihrest =>
      obtain ⟨opened, hstep, hafter⟩ := ok_of_run_cons h
      obtain ⟨attributes, hread, hopen⟩ := ok_of_bind hstep
      obtain ⟨m, hcontent, hclosing⟩ := ok_of_run_append hafter
      obtain ⟨closed, hclose, hrest⟩ := ok_of_run_cons hclosing
      cases hclose
      exact .element hread hopen honce (ihcontent hcontent · _) (ihrest hrest · _)
  | empty tag rest ih =>
      obtain ⟨closed, hstep, hrest⟩ := ok_of_run_cons h
      obtain ⟨attributes, hread, hafter⟩ := ok_of_bind hstep
      obtain ⟨opened, hopen, hclose⟩ := ok_of_bind hafter
      cases hclose
      -- One tag does what a start tag and its end tag do with nothing between them.
      have htags : Reads inside (.element tag .nil rest) c d :=
        .element hread hopen honce (fun _ => .nil _ opened) (ih hrest · _)
      exact htags.asEmpty

end Collector

/-! ### Accepted documents -/

theorem eq_of_mem_logOf {tag : Tag} {text : String} {inside late holding : Bool} {e : LogElement}
    (h : e ∈ logOf tag text inside late holding) :
    e = ⟨typeOf? tag, text, inside, late, holding⟩ := by
  rw [logOf] at h
  cases hlog : isLog tag with
  | false => simp [hlog] at h
  | true => simpa [hlog] using h

/-- A log element inside the root element ends after the root element begins. -/
theorem late_of_inside {content : Content} {inside started : Bool}
    (h : inside = true → started = true) {e : LogElement}
    (hmem : e ∈ logElements inside started content) (hinside : e.inside = true) :
    e.late = true := by
  induction content generalizing inside started with
  | nil => cases hmem
  | text raw rest ih | cdata raw rest ih => exact ih h hmem
  | element tag content rest ihcontent ihrest =>
      simp only [logElements, List.mem_append] at hmem
      rcases hmem with (hhere | hcontent) | hrest
      · cases eq_of_mem_logOf hhere
        simp [h hinside]
      · refine ihcontent (fun hroot => ?_) hcontent
        rcases Bool.or_eq_true_iff.mp hroot with hroot | hroot <;> simp [hroot, h]
      · exact ihrest (fun hroot => by simp [h hroot]) hrest
  | empty tag rest ih =>
      simp only [logElements, List.mem_append] at hmem
      rcases hmem with hhere | hrest
      · cases eq_of_mem_logOf hhere
        simp [h hinside]
      · exact ih (fun hroot => by simp [h hroot]) hrest

/-- The recorded log elements are the visible ones inside the root element, less those that are
missed, and the stray ones. -/
theorem countP_entries {logs : List LogElement}
    (h : ∀ e ∈ logs, e.inside = true → e.late = true) :
    (logs.filterMap LogElement.entry?).length + logs.countP LogElement.missed =
      logs.countP LogElement.wanted + logs.countP LogElement.stray := by
  rw [List.length_filterMap_eq_countP]
  induction logs with
  | nil => rfl
  | cons e logs ih =>
      have hlogs := ih fun e he => h e (List.mem_cons_of_mem _ he)
      have hhere := LogElement.counts (h e List.mem_cons_self)
      simp only [List.countP_cons]
      omega

variable {document : Bytes} {r : CaseResult}

/-- An accepted document whose elements are all closed is a tree. If there is one root element
in it, the log holds the entries of those log elements that end after the root element begins
and hold no other log element. So it differs from the visible log elements inside the root
element in two ways: those that hold another one are missed, and those that are around the
root element or after it are there in addition. -/
theorem parse_logElements (h : parse document = .ok r) (hclosed : Closed document) :
    (∃ content : Content, (read document).events = content.events) ∧
    ∀ content : Content, (read document).events = content.events → rootCount content = 1 →
      let logs := logElements false false content
      r.log.entries = logs.filterMap LogElement.entry? ∧
        r.log.size + logs.countP LogElement.missed =
          logs.countP LogElement.wanted + logs.countP LogElement.stray := by
  refine ⟨Markup.exists_content hclosed, ?_⟩
  intro content hcontent hroot logs
  obtain ⟨-, c, hrun, hresult⟩ := run_of_parse h
  rw [hcontent] at hrun
  have hentries : r.log.entries = logs.filterMap LogElement.entry? := by
    have hreads := (Collector.reads_of_run hrun (by rw [hroot]; rfl) false).entries
    rw [Collector.entries, hresult] at hreads
    exact hreads
  refine ⟨hentries, ?_⟩
  rw [Log.size, hentries]
  exact countP_entries fun e he => late_of_inside id he

/-! ### Log elements in and outside others -/

/-- A log element with the given attributes and character data. -/
def logElement (attributes text : String) (rest : Content) : Content :=
  .element ⟨codes ("Log" ++ attributes)⟩ (.text (codes text) .nil) rest

/-- The tag of a root element. -/
def rootTag : Tag := ⟨codes "TestcaseInformation ScenarioId=\"1\""⟩

/-- A document with log elements before the root element, in it and after it. -/
def scattered : Bytes := codes <|
  "<report><Log>a</Log><TestcaseInformation ScenarioId=\"1\"><Log>b<i>c</i></Log>"
    ++ "<Log>d<Log Type=\"Error\">e</Log></Log><Log Type=\"invisible\">f</Log>"
    ++ "</TestcaseInformation><Log>g</Log></report>"

/-- The tree of this document. -/
def scatteredContent : Content :=
  .element ⟨codes "report"⟩
    (logElement "" "a" <| .element rootTag
      (.element ⟨codes "Log"⟩ (.text (codes "b") <|
          .element ⟨codes "i"⟩ (.text (codes "c") .nil) .nil) <|
        .element ⟨codes "Log"⟩
          (.text (codes "d") <| logElement " Type=\"Error\"" "e" .nil) <|
        logElement " Type=\"invisible\"" "f" .nil) <|
      logElement "" "g" .nil)
    .nil

theorem parse_logElements_scattered :
    ∃ r, parse scattered = .ok r ∧ r.log.entries = [⟨.all, "bc"⟩, ⟨.error, "e"⟩, ⟨.all, "g"⟩] := by
  have haccepted : (parse scattered).isOk = true := by decide +kernel
  have hlogs : (logElements false false scatteredContent).filterMap LogElement.entry? =
      [⟨.all, "bc"⟩, ⟨.error, "e"⟩, ⟨.all, "g"⟩] := by decide +kernel
  cases h : parse scattered with
  | error fault =>
      rw [h] at haccepted
      cases haccepted
  | ok r =>
      have hcontent : (read scattered).events = scatteredContent.events := by decide +kernel
      have hclosed : Closed scattered := by
        intro left hleft
        have hnone : scatteredContent.events.foldlM Event.opened [] = some [] := by decide +kernel
        rw [hcontent, hnone] at hleft
        exact (Option.some.inj hleft).symm
      obtain ⟨-, hlogsOf⟩ := parse_logElements h hclosed
      obtain ⟨hentries, -⟩ := hlogsOf scatteredContent hcontent (by decide +kernel)
      exact ⟨r, rfl, hentries.trans hlogs⟩

/-- The number of log entries that are read from a document. -/
def recorded (document : Bytes) : Option Nat := (parse document).toOption.map (·.log.size)

/-- A log element after the root element is recorded, and of two log elements, one in the
other, only one is. -/
theorem parse_other_logs :
    (let document := codes "<report><TestcaseInformation ScenarioId=\"1\"/><Log>a</Log></report>"
      let content := .element ⟨codes "report"⟩ (.empty rootTag <| logElement "" "a" .nil) .nil
      (read document).events = content.events ∧ rootCount content = 1 ∧
        recorded document = some 1 ∧
        (logElements false false content).countP LogElement.wanted = 0) ∧
    (let document := codes <| "<TestcaseInformation ScenarioId=\"1\"><Log>a<Log>b</Log></Log>"
        ++ "</TestcaseInformation>"
      let content := .element rootTag
        (.element ⟨codes "Log"⟩ (.text (codes "a") <| logElement "" "b" .nil) .nil) .nil
      (read document).events = content.events ∧ rootCount content = 1 ∧
        recorded document = some 1 ∧
        (logElements false false content).countP LogElement.wanted = 2) := by
  decide +kernel

end CaseRunner.Report
