import CaseRunner.Text.Numeral
import CaseRunner.Text.Utf8

/-!
# `CaseRunner.Markup.Reference`: characters written by name or number

In character data and in attribute values, an ampersand begins a reference and a
semicolon ends it. Five names are known; a number sign stands before a code point. A
fault says where in the raw text, counted in bytes, it was met.
-/

set_option autoImplicit false

namespace CaseRunner.Markup

open CaseRunner.Text

/-- Why a number stands for no character. -/
inductive NumberFault where
  /-- The number has a sign. -/
  | signed
  /-- The number cannot be read. -/
  | unreadable (fault : NumeralFault)
  /-- The number is no code point of a character. -/
  | noCharacter (n : Nat)
  /-- The number is zero. -/
  | zero
  deriving DecidableEq, Repr

/-- What the fault is called. -/
def NumberFault.message : NumberFault → String
  | .signed => "unexpected number sign"
  | .unreadable fault => fault.message
  | .noCharacter n => s!"`{n}` is not a valid codepoint"
  | .zero => "0x0 character is not permitted in XML"

/-- Why raw content stands for no text. -/
inductive ContentFault where
  /-- The bytes are not UTF-8. -/
  | notUtf8 (fault : Utf8Fault)
  /-- A reference to an unknown name, and its range of bytes. -/
  | unknownName (first last : Nat) (name : String)
  /-- An ampersand without a semicolon, and the bytes from there to the end. -/
  | openReference (first last : Nat)
  /-- A reference by number to no character. -/
  | badNumber (fault : NumberFault)
  deriving DecidableEq, Repr

/-- What the fault is called. -/
def ContentFault.message : ContentFault → String
  | .notUtf8 fault => s!"Malformed UTF-8 input: {fault.message}"
  | .unknownName first last name => s!"at {first}..{last}: unrecognized entity `{name}`"
  | .openReference first last =>
    s!"Error while escaping character at range {first}..{last}: Cannot find ';' after '&'"
  | .badNumber fault => s!"invalid character reference: {fault.message}"

/-- The greatest number of 32 bits. -/
def maxReference : Nat := valuesOfBits 32 - 1

/-- The number after a number sign. -/
def referenceNumber (text : List Char) : Except NumeralFault Nat :=
  match text with
  | 'x' :: hex => readNatural 16 maxReference hex
  | decimal => readNatural 10 maxReference decimal

/-- Whether the number after a number sign has a sign of its own. -/
def hasSign (text : List Char) : Bool :=
  match text with
  | 'x' :: c :: _ => c = '+' || c = '-'
  | c :: _ => c = '+' || c = '-'
  | [] => false

/-- The character that a number after a number sign stands for. -/
def numberedChar (text : List Char) : Except NumberFault Char :=
  if hasSign text then .error .signed
  else
    match referenceNumber text with
    | .error fault => .error (.unreadable fault)
    | .ok n =>
      if n = 0 then .error .zero
      else if n.isValidChar then .ok (Char.ofNat n)
      else .error (.noCharacter n)

/-- The character that a known name stands for. -/
def namedChar (name : String) : Option Char :=
  match name with
  | "lt" => some '<'
  | "gt" => some '>'
  | "amp" => some '&'
  | "apos" => some '\''
  | "quot" => some '"'
  | _ => none

/-- The number of bytes of a text in UTF-8. -/
def byteSize (text : List Char) : Nat := text.foldr (fun c size => c.utf8Size + size) 0

/-- The character for the reference `name`, which begins at byte `first` of the text. -/
def referredChar (first : Nat) (name : List Char) : Except ContentFault Char :=
  match name with
  | '#' :: number => (numberedChar number).mapError .badNumber
  | _ =>
    match namedChar (String.ofList name) with
    | some c => .ok c
    | none => .error (.unknownName first (first + byteSize name) (String.ofList name))

/-- Replaces the references in `text`, which begins at byte `position` of a raw text of
`size` bytes. -/
def resolveFrom (size position : Nat) (text : List Char) : Except ContentFault (List Char) :=
  match text with
  | [] => .ok []
  | c :: rest =>
    if c = '&' then
      let name := rest.takeWhile fun c => c ≠ '&' ∧ c ≠ ';'
      match _h : rest.dropWhile fun c => c ≠ '&' ∧ c ≠ ';' with
      | [] => .error (.openReference position size)
      | mark :: after =>
        if mark = ';' then do
          let c ← referredChar (position + 1) name
          let resolved ← resolveFrom size (position + byteSize name + 2) after
          return c :: resolved
        else
          .error (.openReference position size)
    else do
      let resolved ← resolveFrom size (position + c.utf8Size) rest
      return c :: resolved
termination_by text.length
decreasing_by
  · have := (List.dropWhile_sublist (fun c => decide (c ≠ '&' ∧ c ≠ ';')) (l := rest)).length_le
    rw [_h] at this
    simp only [List.length_cons] at this ⊢
    omega
  · simp

/-- Replaces the references in a raw text. -/
def resolve (text : List Char) : Except ContentFault (List Char) :=
  resolveFrom (byteSize text) 0 text

/-- The text that raw content stands for. -/
def contentText (raw : Bytes) : Except ContentFault (List Char) := do
  let text ← (decode raw).mapError .notUtf8
  resolve text

end CaseRunner.Markup
