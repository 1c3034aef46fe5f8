import CaseRunner.Markup.Attribute

/-!
# `CaseRunner.Markup.Event`: a document as a sequence of events

The events of a document are its tags and its character data, in order, up to the first
fault of the markup. Tags nest: a closing tag names the tag opened last. What a document
leaves open at its end is no fault.

Comments, instructions, declarations and document types make no event. A byte order mark
at the very beginning is not part of the document, and positions do not count it.
-/

set_option autoImplicit false

namespace CaseRunner.Markup

open CaseRunner.Text

/-- Something a document says. -/
inductive Event where
  /-- An element begins. -/
  | opening (tag : Tag)
  /-- An element begins and ends. -/
  | empty (tag : Tag)
  /-- An element ends. -/
  | closing (name : Bytes)
  /-- Character data, as written. -/
  | text (raw : Bytes)
  /-- The content of a CDATA section. -/
  | cdata (raw : Bytes)
  deriving DecidableEq, Repr

/-- Why a document cannot be read further. -/
inductive Fault where
  /-- The markup itself is broken. -/
  | broken (fault : SyntaxFault)
  /-- A closing tag, and no element open. -/
  | unmatchedClosing (name : String)
  /-- A closing tag that names another element than the one open. -/
  | mismatchedClosing (expected found : String)
  deriving DecidableEq, Repr

/-- What the fault is called. -/
def Fault.message : Fault → String
  | .broken fault => fault.message
  | .unmatchedClosing name =>
    s!"ill-formed document: close tag `</{name}>` does not match any open tag"
  | .mismatchedClosing expected found =>
    s!"ill-formed document: expected `</{expected}>`, but `</{found}>` was found"

/-- A name as a fault shows it: nothing, if it is not UTF-8. -/
def shownName (name : Bytes) : String := (decodeString name).toOption.getD ""

/-- The name that the content of a closing tag gives: all of it but the white space at its
end, or all of it if there is nothing else. -/
def closingName (content : Bytes) : Bytes :=
  if content.all isSpace then content else (content.reverse.dropWhile isSpace).reverse

/-- The names of the open elements after a closing tag of the given name. -/
def closeElement (names : List Bytes) (name : Bytes) : Except Fault (List Bytes) :=
  match names with
  | [] => .error (.unmatchedClosing (shownName name))
  | expected :: outer =>
    if name = expected then .ok outer
    else .error (.mismatchedClosing (shownName expected) (shownName name))

/-- What a token says, and the names of the open elements after it. -/
def Token.event (names : List Bytes) : Token → Except Fault (Option Event × List Bytes)
  | .text raw => .ok (some (.text raw), names)
  | .cdata raw => .ok (some (.cdata raw), names)
  | .aside => .ok (none, names)
  | .opening content => .ok (some (.opening ⟨content⟩), Tag.name ⟨content⟩ :: names)
  | .empty content => .ok (some (.empty ⟨content⟩), names)
  | .closing content =>
    (closeElement names (closingName content)).map fun outer =>
      (some (.closing (closingName content)), outer)

/-- A fault and how many bytes had been passed by then. -/
structure LocatedFault where
  /-- The number of bytes passed. -/
  position : Nat
  /-- The fault. -/
  fault : Fault
  deriving DecidableEq, Repr

/-- The events of a document up to its end or its first fault. -/
structure Reading where
  /-- The events, in order. -/
  events : List Event
  /-- The fault that ended the reading. -/
  fault : Option LocatedFault
  deriving DecidableEq, Repr

/-- The reading with an event before it. -/
def Reading.after (event : Option Event) (reading : Reading) : Reading :=
  { reading with events := event.toList ++ reading.events }

/-- Reads `s`, the end of a document of `size` bytes, with the given elements open, the
innermost first. -/
def readFrom (size : Nat) (names : List Bytes) (s : Bytes) : Reading :=
  match _h : scan s with
  | .finished => ⟨[], none⟩
  | .broken fault rest => ⟨[], some ⟨size - rest.length, .broken fault⟩⟩
  | .token token rest =>
    match token.event names with
    | .error fault => ⟨[], some ⟨size - rest.length, fault⟩⟩
    | .ok (event, names) => (readFrom size names rest).after event
termination_by s.length
decreasing_by exact scan_token_length _h

/-- The byte order mark in UTF-8. -/
def byteOrderMark : Bytes := [0xEF, 0xBB, 0xBF]

/-- The document without a byte order mark. -/
def withoutMark (s : Bytes) : Bytes :=
  if byteOrderMark.isPrefixOf s then s.drop 3 else s

/-- Reads a document. -/
def read (s : Bytes) : Reading :=
  readFrom (withoutMark s).length [] (withoutMark s)

end CaseRunner.Markup
