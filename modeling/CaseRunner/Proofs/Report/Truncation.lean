import CaseRunner.Proofs.Markup.Truncation
import CaseRunner.Proofs.Report.Pieces

/-!
# `CaseRunner.Proofs.Report.Truncation`: result artifacts that end too early

The front part of an artifact is taken for a result only if it has the whole start tag of the
root element, ends between two pieces of markup or in character data, and all of its
character data can be read (`parse_truncated`). So a cut within a tag, a comment, a section, a
reference or a character is always noticed, and one before the root element too.

Nothing asks whether the root element was closed, so a cut after its start tag and between
two pieces is not noticed. What has been cut off is missing from the result then
(`parse_accepts_truncated`).
-/

set_option autoImplicit false

namespace CaseRunner.Report

open CaseRunner.Markup (CutClean Event Tag byteOrderMark codes contentText read sameIgnoringCase
  withoutMark)

/-! ### The events of an accepted document -/

/-- The event begins an element with the name of the root element. -/
def OpensRoot (event : Event) : Prop :=
  ∃ tag, sameIgnoringCase tag.name (codes rootName) = true ∧
    (event = .opening tag ∨ event = .empty tag)

namespace Collector

variable {c c' : Collector} {event : Event} {events : List Event}

theorem result_closeElement_eq_none (h : c.result = none) (name : Bytes) :
    (c.closeElement name).result = none := by
  unfold closeElement closeEntry closeAssessment
  (repeat' split) <;> simp_all

/-- The beginning of any element but the root element leaves the result. -/
theorem result_openElement {name : Bytes} {attributes : Attributes}
    (hopen : c.openElement name attributes = .ok c')
    (hname : ¬sameIgnoringCase name (codes rootName) = true) : c'.result = c.result := by
  rw [openElement, if_neg hname] at hopen
  (repeat' split at hopen) <;>
    · cases hopen
      rfl

/-- The result begins with the start tag of the root element. -/
theorem opensRoot_of_step (h : c.step event = .ok c') (hbefore : c.result = none)
    (hafter : c'.result ≠ none) : OpensRoot event := by
  have hopened {tag : Tag} {attributes : Attributes} {next : Collector}
      (hopen : c.openElement tag.name attributes = .ok next) (hnext : next.result ≠ none) :
      sameIgnoringCase tag.name (codes rootName) = true := by
    by_contra hname
    exact hnext ((result_openElement hopen hname).trans hbefore)
  cases event with
  | opening tag =>
      obtain ⟨attributes, -, hopen⟩ := ok_of_bind h
      exact ⟨tag, hopened hopen hafter, .inl rfl⟩
  | empty tag =>
      obtain ⟨attributes, -, h⟩ := ok_of_bind h
      obtain ⟨next, hopen, hclose⟩ := ok_of_bind h
      cases hclose
      have hnext : next.result ≠ none := fun hnone =>
        hafter (result_closeElement_eq_none hnone tag.name)
      exact ⟨tag, hopened hopen hnext, .inr rfl⟩
  | closing name =>
      cases h
      exact absurd (result_closeElement_eq_none hbefore name) hafter
  | text raw =>
      obtain ⟨text, -, htext⟩ := ok_of_bind h
      cases htext
      exact absurd hbefore hafter
  | cdata raw =>
      cases h
      exact absurd hbefore hafter

/-- A run without a fault takes a step without a fault with each event. -/
theorem step_of_run (h : c.run events = (c', none)) (hmem : event ∈ events) :
    ∃ before after, step before event = .ok after := by
  induction events generalizing c with
  | nil => cases hmem
  | cons first events ih =>
      obtain ⟨next, hstep, hnext⟩ := ok_of_run_cons h
      rcases List.mem_cons.mp hmem with rfl | hmem
      · exact ⟨c, next, hstep⟩
      · exact ih hnext hmem

/-- A run that comes to a result meets the start tag of the root element. -/
theorem opensRoot_of_run (h : c.run events = (c', none)) (hbefore : c.result = none)
    (hafter : c'.result ≠ none) : ∃ event ∈ events, OpensRoot event := by
  induction events generalizing c with
  | nil =>
      cases h
      exact absurd hbefore hafter
  | cons first events ih =>
      obtain ⟨next, hstep, hrest⟩ := ok_of_run_cons h
      by_cases hnext : next.result = none
      · obtain ⟨event, hmem, hroot⟩ := ih hrest hnext
        exact ⟨event, List.mem_cons_of_mem first hmem, hroot⟩
      · exact ⟨first, List.mem_cons_self, opensRoot_of_step hstep hbefore hnext⟩

end Collector

/-! ### Accepted documents -/

/-- A document that is taken for a result is read without a fault, and so is every value and
every text in it. The result is what the run through its events ends with. -/
theorem run_of_parse {document : Bytes} {result : CaseResult} (h : parse document = .ok result) :
    (read document).fault = none ∧
      ∃ c, Collector.initial.run (read document).events = (c, none) ∧ c.result = some result := by
  rcases hcollect : collect document with ⟨c, _ | fault⟩
  · rw [parse, hcollect] at h
    rw [collect] at hcollect
    obtain ⟨hc, hfaults⟩ := Prod.mk.inj hcollect
    have hrun : (Collector.initial.run (read document).events).2 = none := by
      cases hfirst : (Collector.initial.run (read document).events).2 with
      | none => rfl
      | some fault =>
          rw [hfirst] at hfaults
          cases hfaults
    rw [hrun] at hfaults
    have hread : (read document).fault = none := by simpa using hfaults
    refine ⟨hread, c, Prod.ext hc hrun, ?_⟩
    dsimp only at h
    cases hresult : c.result with
    | none =>
        rw [hresult] at h
        cases h
    | some last =>
        rw [hresult] at h
        cases h
        rfl
  · rw [parse, hcollect] at h
    cases h

theorem collect_of_parse {document : Bytes} {result : CaseResult}
    (h : parse document = .ok result) :
    (read document).fault = none ∧
      ∃ c, Collector.initial.run (read document).events = (c, none) ∧ c.result ≠ none := by
  obtain ⟨hfault, c, hrun, hresult⟩ := run_of_parse h
  exact ⟨hfault, c, hrun, by simp [hresult]⟩

/-- The byte order mark stands at the beginning of the whole document if it does so in a part
of it that is taken for a result. -/
theorem withoutMark_append {front : Bytes} {result : CaseResult} (h : parse front = .ok result)
    (rest : Bytes) : withoutMark (front ++ rest) = withoutMark front ++ rest := by
  unfold withoutMark
  by_cases hmark : byteOrderMark.isPrefixOf front = true
  · have hbegin := List.isPrefixOf_iff_prefix.mp hmark
    have hlonger : byteOrderMark <+: front ++ rest := hbegin.trans (List.prefix_append front rest)
    have hlength : 3 ≤ front.length := hbegin.length_le
    rw [if_pos hmark, if_pos (List.isPrefixOf_iff_prefix.mpr hlonger),
      List.drop_append_of_le_length hlength]
  · have hnot : ¬byteOrderMark.isPrefixOf (front ++ rest) = true := by
      intro hlonger
      have hpart : front <+: byteOrderMark := by
        rcases List.prefix_or_prefix_of_prefix (List.isPrefixOf_iff_prefix.mp hlonger)
          (List.prefix_append front rest) with hbegin | hpart
        · exact absurd (List.isPrefixOf_iff_prefix.mpr hbegin) hmark
        · exact hpart
      -- A part of the mark alone is no document.
      have hnone : ∀ n < 4, (parse (byteOrderMark.take n)).toOption = none := by decide +kernel
      have hparse := hnone front.length (Nat.lt_succ_of_le hpart.length_le)
      rw [← List.prefix_iff_eq_take.mp hpart, h] at hparse
      cases hparse
    rw [if_neg hmark, if_neg hnot]

/-- If the front part of a document is taken for a result, it has the start tag of the root
element, all of its character data can be read, and it does not end within markup. -/
theorem parse_truncated {front : Bytes} {result : CaseResult} (h : parse front = .ok result)
    (rest : Bytes) :
    withoutMark (front ++ rest) = withoutMark front ++ rest ∧
      CutClean (withoutMark front) rest ∧
      (∀ raw, .text raw ∈ (read front).events → ∃ text, contentText raw = .ok text) ∧
      ∃ event ∈ (read front).events, OpensRoot event := by
  obtain ⟨hfault, c, hrun, hresult⟩ := collect_of_parse h
  refine ⟨withoutMark_append h rest, ?_, ?_, Collector.opensRoot_of_run hrun rfl hresult⟩
  · exact Markup.cutClean_of_readFrom hfault rest
  · intro raw hmem
    obtain ⟨before, after, hstep⟩ := Collector.step_of_run hrun hmem
    obtain ⟨text, htext, -⟩ := ok_of_bind hstep
    cases hcontent : contentText raw with
    | error fault =>
        rw [hcontent] at htext
        cases htext
    | ok text => exact ⟨text, rfl⟩

/-! ### A cut between two log entries -/

/-- The root element as far as its first log entry. -/
def firstHalf : Bytes :=
  codes "<TestcaseInformation ScenarioName=\"TC\" ScenarioId=\"1\"><Log>a</Log>"

/-- The second log entry and the end of the root element. -/
def secondHalf : Bytes := codes "<Log>b</Log></TestcaseInformation>"

/-- The texts of the log entries that are read from a document. -/
def readTexts (document : Bytes) : Option (List String) :=
  (parse document).toOption.map fun result => result.log.entries.map (·.text)

theorem parse_truncated_firstHalf :
    ∃ result, parse firstHalf = .ok result ∧ CutClean (withoutMark firstHalf) secondHalf ∧
      ∃ event ∈ (read firstHalf).events, OpensRoot event := by
  have haccepted : (parse firstHalf).isOk = true := by decide +kernel
  cases h : parse firstHalf with
  | error fault =>
      rw [h] at haccepted
      cases haccepted
  | ok result =>
      obtain ⟨-, hclean, -, hroot⟩ := parse_truncated h secondHalf
      exact ⟨result, rfl, hclean, hroot⟩

/-- A document that ends after its first log entry is taken for a result, in which the second
log entry is missing. -/
theorem parse_accepts_truncated :
    readTexts (firstHalf ++ secondHalf) = some ["a", "b"] ∧
      readTexts firstHalf = some ["a"] := by
  constructor <;> decide +kernel

end CaseRunner.Report
