import CaseRunner.Proofs.Files.Activity
import CaseRunner.Proofs.Markup.Reading
import CaseRunner.Report.Artifact

/-!
# `CaseRunner.Proofs.Report.Pieces`: collecting piece by piece

The collector goes through events, in which the character data of neighbouring pieces is one.
What it collects is the same as if it took one piece after the other (`run_eventsFrom`), since
adding two texts is adding the first and then the second.
-/

set_option autoImplicit false

namespace CaseRunner.Report

open CaseRunner.Text
open CaseRunner.Markup (Event Name Passage Piece StartTag Token dataEvent escape eventsFrom)

/-! ### Attributes -/

/-- The attributes of a tag that was written. -/
def textsOf (tag : StartTag) : Attributes :=
  tag.attributes.entries.map fun entry => (String.ofList entry.1.chars, String.ofList entry.2)

/-- An attribute that was written is read in characters. -/
theorem attributeText_written {a : Markup.RawAttribute} {key value : List Char}
    (hkey : a.key = encode key) (hvalue : a.value = encode (escape value)) :
    attributeText a = .ok (String.ofList key, String.ofList value) := by
  rw [attributeText, hkey, hvalue, Markup.contentText_escape, decodeStringLossy,
    decodeLossy_encode]
  rfl

/-- Attributes that were written are read in characters, in order. -/
theorem attributeTexts_written {raw : List Markup.RawAttribute}
    {entries : List (Name × List Char)}
    (h : raw.map (fun a => (a.key, a.value)) =
      entries.map fun entry => (encode entry.1.chars, encode (escape entry.2))) :
    raw.mapM attributeText =
      .ok (entries.map fun entry => (String.ofList entry.1.chars, String.ofList entry.2)) := by
  induction entries generalizing raw with
  | nil =>
      rw [List.map_eq_nil_iff.mp h]
      rfl
  | cons entry entries ih =>
      cases raw with
      | nil => cases h
      | cons a raw =>
          obtain ⟨hfirst, hrest⟩ := List.cons.inj h
          obtain ⟨hkey, hvalue⟩ := Prod.mk.inj hfirst
          rw [List.mapM_cons, attributeText_written hkey hvalue, ih hrest]
          rfl

/-- The attributes of a tag are read as they were written. -/
theorem readAttributes_written (tag : StartTag) :
    readAttributes ⟨encode tag.written⟩ = .ok (textsOf tag) := by
  obtain ⟨raw, hread, hraw⟩ := tag.attributes_written
  rw [readAttributes, hread]
  show (raw.mapM attributeText >>= _) = _
  rw [attributeTexts_written hraw]
  rfl

/-! ### One piece -/

namespace Collector

/-- What is known after one more piece. -/
def take (c : Collector) : Piece → Except ArtifactFault Collector
  | .data text => .ok (c.addText (String.ofList text))
  | .cdata passage => .ok (c.addText (String.ofList passage.text))
  | .comment _ => .ok c
  | .instruction _ => .ok c
  | .opening tag => c.openElement (encode tag.name.chars) (textsOf tag)
  | .empty tag => (c.openElement (encode tag.name.chars) (textsOf tag)).map fun c =>
      c.closeElement (encode tag.name.chars)
  | .closing name => .ok (c.closeElement (encode name.chars))

theorem addText_empty (c : Collector) : c.addText "" = c := by
  simp [addText]

theorem addText_addText (c : Collector) (a b : String) :
    (c.addText a).addText b = c.addText (a ++ b) := by
  simp [addText, Function.comp_def, String.append_assoc]

/-- The event of a piece tells what the piece tells. -/
theorem step_event {piece : Piece} {event : Event} (h : piece.event = some event)
    (c : Collector) : c.step event = c.take piece := by
  cases piece with
  | cdata passage =>
      cases h
      rw [step, decodeStringLossy, decodeLossy_encode]
      rfl
  | opening tag =>
      cases h
      rw [step, readAttributes_written, tag.name_written]
      rfl
  | empty tag =>
      cases h
      rw [step, readAttributes_written, tag.name_written]
      show (c.openElement _ _ >>= _) = _
      rw [take]
      cases c.openElement (encode tag.name.chars) (textsOf tag) <;> rfl
  | closing name => cases h; rfl
  | _ => cases h

/-- A piece without an event tells nothing. -/
theorem take_aside {piece : Piece} {token : Token} (htoken : piece.token = some token)
    (h : piece.event = none) (c : Collector) : c.take piece = .ok c := by
  cases piece with
  | comment | instruction => rfl
  | data => cases htoken
  | _ => cases h

/-! ### All pieces -/

/-- A run without a fault takes its first step without one. -/
theorem ok_of_run_cons {c d : Collector} {event : Event} {events : List Event}
    (h : c.run (event :: events) = (d, none)) :
    ∃ next, c.step event = .ok next ∧ next.run events = (d, none) := by
  rw [run] at h
  cases hstep : c.step event with
  | error fault =>
      rw [hstep] at h
      cases h
  | ok next =>
      rw [hstep] at h
      exact ⟨next, rfl, h⟩

/-- A run without a fault has none in its first part. -/
theorem ok_of_run_append {c d : Collector} {first second : List Event}
    (h : c.run (first ++ second) = (d, none)) :
    ∃ m, c.run first = (m, none) ∧ m.run second = (d, none) := by
  induction first generalizing c with
  | nil => exact ⟨c, rfl, h⟩
  | cons event first ih =>
      obtain ⟨next, hstep, hnext⟩ := ok_of_run_cons h
      obtain ⟨m, hfirst, hsecond⟩ := ih hnext
      refine ⟨m, ?_, hsecond⟩
      rw [run, hstep]
      exact hfirst

theorem run_append {c d : Collector} {events : List Event} (h : c.run events = (d, none))
    (more : List Event) : c.run (events ++ more) = d.run more := by
  induction events generalizing c with
  | nil =>
      cases h
      rfl
  | cons event events ih =>
      obtain ⟨next, hstep, hnext⟩ := ok_of_run_cons h
      rw [List.cons_append, run, hstep]
      exact ih hnext

/-- The event for character data adds that data. -/
theorem run_dataEvent (c : Collector) (text : List Char) :
    c.run (dataEvent text) = (c.addText (String.ofList text), none) := by
  by_cases htext : text = []
  · rw [dataEvent, if_pos htext, htext, run]
    rw [show String.ofList [] = "" from rfl, addText_empty]
  · rw [dataEvent, if_neg htext, run, step, Markup.contentText_escape]
    rfl

/-- The events of pieces tell what the pieces tell one after the other. -/
theorem run_eventsFrom {pieces : List Piece} {c d : Collector} {pending : List Char}
    (h : pieces.foldlM take (c.addText (String.ofList pending)) = .ok d) :
    c.run (eventsFrom pending pieces) = (d, none) := by
  induction pieces generalizing c pending with
  | nil =>
      cases h
      exact run_dataEvent c pending
  | cons piece pieces ih =>
      rw [List.foldlM_cons] at h
      -- Character data joins what is pending. Markup ends it, and then has its own event, if any.
      cases htoken : piece.token with
      | none =>
          cases piece with
          | data text =>
              refine ih ?_
              rw [String.ofList_append, ← addText_addText]
              exact h
          | _ => cases htoken
      | some token =>
          obtain ⟨next, hnext, hpieces⟩ := ok_of_bind h
          have hrest : next.run (eventsFrom [] pieces) = (d, none) := by
            refine ih ?_
            rw [show String.ofList [] = "" from rfl, addText_empty]
            exact hpieces
          rw [Markup.eventsFrom_markup htoken, List.append_assoc,
            run_append (run_dataEvent c pending)]
          cases hevent : piece.event with
          | none =>
              rw [take_aside htoken hevent] at hnext
              cases hnext
              exact hrest
          | some event =>
              rw [Option.toList_some, List.singleton_append, run, step_event hevent, hnext]
              exact hrest

end Collector

end CaseRunner.Report
