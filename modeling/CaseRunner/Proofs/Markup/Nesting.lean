import CaseRunner.Markup.Event

/-!
# `CaseRunner.Proofs.Markup.Nesting`: a document as a tree

Every document is read as events whose tags nest, as far as they go (`opened_read`), and whether
they are all closed at the end is another question. The events of a document in which they are
(`Closed`) are those of a tree: every element has its content between its two tags
(`exists_content`).

The document need not be written in any particular way, and it may have any number of elements
on its top level.
-/

set_option autoImplicit false

namespace CaseRunner.Markup

open CaseRunner.Text

/-! ### Open elements -/

/-- The names of the open elements after an event, the innermost first. A closing tag has to
name the innermost one. -/
def Event.opened (names : List Bytes) : Event → Option (List Bytes)
  | .opening tag => some (tag.name :: names)
  | .closing name => (closeElement names name).toOption
  | _ => some names

/-- What a token says opens and closes the elements that the token does. -/
theorem opened_of_token {token : Token} {names left : List Bytes} {event : Option Event}
    (h : token.event names = .ok (event, left)) :
    event.toList.foldlM Event.opened names = some left := by
  cases token with
  | closing content =>
      rw [Token.event] at h
      cases hclose : closeElement names (closingName content) with
      | error fault =>
          rw [hclose] at h
          cases h
      | ok outer =>
          rw [hclose] at h
          cases h
          show (closeElement names (closingName content)).toOption >>= _ = _
          rw [hclose]
          rfl
  | _ =>
      cases h
      rfl

/-- The tags that are read from the rest of a document nest in the elements that are open. -/
theorem opened_readFrom (size : Nat) (names : List Bytes) (s : Bytes) :
    ∃ left, (readFrom size names s).events.foldlM Event.opened names = some left := by
  fun_induction readFrom size names s with
  | case4 names s token rest hscan event inner hevent ih =>
      obtain ⟨left, hleft⟩ := ih
      refine ⟨left, ?_⟩
      rw [Reading.after, List.foldlM_append, opened_of_token hevent]
      exact hleft
  | _ => exact ⟨_, rfl⟩

/-- The tags that are read from a document nest. -/
theorem opened_read (document : Bytes) :
    ∃ left, (read document).events.foldlM Event.opened [] = some left :=
  opened_readFrom _ [] _

/-- No element of the document is open at its end. -/
def Closed (document : Bytes) : Prop :=
  ∀ left, (read document).events.foldlM Event.opened [] = some left → left = []

/-! ### Trees -/

/-- The content of an element, or of a whole document: nothing, or a first part and what
follows it. -/
inductive Content where
  /-- No content. -/
  | nil
  /-- Character data, as written. -/
  | text (raw : Bytes) (rest : Content)
  /-- A CDATA section. -/
  | cdata (raw : Bytes) (rest : Content)
  /-- An element with a tag at its beginning and one at its end. -/
  | element (tag : Tag) (content rest : Content)
  /-- An element without content, as one tag. -/
  | empty (tag : Tag) (rest : Content)
  deriving DecidableEq, Repr

/-- The events as which a content is read. -/
def Content.events : Content → List Event
  | nil => []
  | text raw rest => .text raw :: rest.events
  | cdata raw rest => .cdata raw :: rest.events
  | element tag content rest => .opening tag :: (content.events ++ .closing tag.name :: rest.events)
  | empty tag rest => .empty tag :: rest.events

/-- The events are a content, the end of the innermost open element, what follows that element
in the next one, and so on to the end of the document. -/
def Completes : List Bytes → List Event → Prop
  | [], events => ∃ content : Content, events = content.events
  | name :: outer, events =>
    ∃ (content : Content) (rest : List Event),
      events = content.events ++ .closing name :: rest ∧ Completes outer rest

variable {names : List Bytes} {events : List Event}

/-- A part before the first content is a part of it. -/
theorem Completes.extend {event : Event} (part : Content → Content)
    (hpart : ∀ content, (part content).events = event :: content.events)
    (h : Completes names events) : Completes names (event :: events) := by
  cases names with
  | nil =>
      obtain ⟨content, rfl⟩ := h
      exact ⟨part content, (hpart content).symm⟩
  | cons name outer =>
      obtain ⟨content, rest, rfl, hrest⟩ := h
      refine ⟨part content, rest, ?_, hrest⟩
      rw [hpart]
      rfl

/-- The first content and the end of the innermost element make an element in the next one. -/
theorem Completes.enclose {tag : Tag} (h : Completes (tag.name :: names) events) :
    Completes names (.opening tag :: events) := by
  obtain ⟨content, rest, rfl, hrest⟩ := h
  cases names with
  | nil =>
      obtain ⟨after, rfl⟩ := hrest
      exact ⟨.element tag content after, rfl⟩
  | cons name outer =>
      obtain ⟨after, last, rfl, hlast⟩ := hrest
      refine ⟨.element tag content after, last, ?_, hlast⟩
      simp [Content.events]

/-- Events that close all open elements complete them. -/
theorem completes_of_opened (h : events.foldlM Event.opened names = some []) :
    Completes names events := by
  induction events generalizing names with
  | nil =>
      cases h
      exact ⟨.nil, rfl⟩
  | cons event events ih =>
      rw [List.foldlM_cons] at h
      obtain ⟨next, hnext, hevents⟩ := Option.bind_eq_some_iff.mp h
      cases event with
      | opening tag =>
          cases hnext
          exact (ih hevents).enclose
      | closing name =>
          cases names with
          | nil => cases hnext
          | cons expected outer =>
              rw [Event.opened, closeElement] at hnext
              by_cases hname : name = expected
              · rw [if_pos hname] at hnext
                cases hnext
                exact ⟨.nil, events, by rw [hname]; rfl, ih hevents⟩
              · rw [if_neg hname] at hnext
                cases hnext
      | empty tag =>
          cases hnext
          exact (ih hevents).extend (.empty tag) fun _ => rfl
      | text raw =>
          cases hnext
          exact (ih hevents).extend (.text raw) fun _ => rfl
      | cdata raw =>
          cases hnext
          exact (ih hevents).extend (.cdata raw) fun _ => rfl

/-- A document that leaves no element open is a tree. -/
theorem exists_content {document : Bytes} (h : Closed document) :
    ∃ content : Content, (read document).events = content.events := by
  obtain ⟨left, hleft⟩ := opened_read document
  rw [h left hleft] at hleft
  exact completes_of_opened hleft

end CaseRunner.Markup
