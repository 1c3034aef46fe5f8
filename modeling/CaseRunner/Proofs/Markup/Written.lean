import CaseRunner.Markup.Reference
import CaseRunner.Proofs.Text.LowerCase
import CaseRunner.Proofs.Text.Utf8

/-!
# `CaseRunner.Proofs.Markup.Written`: how the pieces of a document are written

A document is a row of pieces: character data, sections, comments, instructions and tags.
`Piece.written` says how each is written. Character data and the values of attributes are
escaped, names stay as they are, and the other texts end at the first place where their end
mark stands. The structures below allow no name and no text that would be cut elsewhere.

* `contentText_escape`: an escaped text is read as the text.
-/

set_option autoImplicit false

namespace CaseRunner.Markup

open CaseRunner.Text

/-! ### Escaping -/

/-- How a character is written in character data and in values. -/
def escapeChar (c : Char) : List Char :=
  if c = '&' then ['&', 'a', 'm', 'p', ';']
  else if c = '<' then ['&', 'l', 't', ';']
  else if c = '>' then ['&', 'g', 't', ';']
  else if c = '"' then ['&', 'q', 'u', 'o', 't', ';']
  else [c]

/-- A text without characters that begin or end markup. -/
def escape (text : List Char) : List Char := text.flatMap escapeChar

@[simp] theorem escape_nil : escape [] = [] := rfl

@[simp] theorem escape_append (a b : List Char) : escape (a ++ b) = escape a ++ escape b :=
  List.flatMap_append

/-- What a character is written as is a reference or the character itself. -/
theorem escapeChar_cases (c : Char) :
    (∃ name, (∀ d ∈ name, d ≠ '&' ∧ d ≠ ';' ∧ d ≠ '<' ∧ d ≠ '>' ∧ d ≠ '"') ∧
      escapeChar c = '&' :: (name ++ [';']) ∧ ∀ first, referredChar first name = .ok c) ∨
    (escapeChar c = [c] ∧ c ≠ '&' ∧ c ≠ '<' ∧ c ≠ '>' ∧ c ≠ '"') := by
  by_cases hamp : c = '&'
  · subst hamp
    exact .inl ⟨['a', 'm', 'p'], by simp, rfl, fun _ => rfl⟩
  by_cases hless : c = '<'
  · subst hless
    exact .inl ⟨['l', 't'], by simp, rfl, fun _ => rfl⟩
  by_cases hgreater : c = '>'
  · subst hgreater
    exact .inl ⟨['g', 't'], by simp, rfl, fun _ => rfl⟩
  by_cases hquote : c = '"'
  · subst hquote
    exact .inl ⟨['q', 'u', 'o', 't'], by simp, rfl, fun _ => rfl⟩
  · refine .inr ⟨?_, hamp, hless, hgreater, hquote⟩
    rw [escapeChar, if_neg hamp, if_neg hless, if_neg hgreater, if_neg hquote]

/-- Nothing is left in an escaped text that could begin or end markup. -/
theorem not_mem_escape {c : Char} (h : c = '<' ∨ c = '>' ∨ c = '"') (text : List Char) :
    c ∉ escape text := by
  intro hmem
  obtain ⟨d, -, hd⟩ := List.mem_flatMap.mp hmem
  rcases escapeChar_cases d with ⟨name, hname, heq, -⟩ | ⟨heq, -, hplain⟩
  · rw [heq, List.mem_cons, List.mem_append, List.mem_singleton] at hd
    rcases hd with rfl | hd | rfl
    · simp at h
    · have := (hname c hd).2.2
      rcases h with rfl | rfl | rfl <;> simp at this
    · simp at h
  · rw [heq, List.mem_singleton] at hd
    subst hd
    rcases h with rfl | rfl | rfl <;> simp at hplain

theorem escape_ne_nil {text : List Char} (h : text ≠ []) : escape text ≠ [] := by
  obtain ⟨c, rest, rfl⟩ := List.exists_cons_of_ne_nil h
  rw [escape, List.flatMap_cons]
  rcases escapeChar_cases c with ⟨name, -, heq, -⟩ | ⟨heq, -⟩ <;> rw [heq] <;>
    exact List.cons_ne_nil _ _

theorem resolveFrom_plain {c : Char} (h : c ≠ '&') (size position : Nat) (rest : List Char) :
    resolveFrom size position (c :: rest) =
      (resolveFrom size (position + c.utf8Size) rest).map (c :: ·) := by
  rw [resolveFrom, if_neg h]
  cases resolveFrom size (position + c.utf8Size) rest <;> rfl

/-- A reference is replaced by its character. -/
theorem resolveFrom_reference {c : Char} {name : List Char}
    (hname : ∀ d ∈ name, d ≠ '&' ∧ d ≠ ';') (href : ∀ first, referredChar first name = .ok c)
    (size position : Nat) (rest : List Char) :
    resolveFrom size position ('&' :: (name ++ ';' :: rest)) =
      (resolveFrom size (position + byteSize name + 2) rest).map (c :: ·) := by
  -- The name goes on to the first `&` or `;`, and here that is the semicolon after it.
  have hall : ∀ d ∈ name, decide (d ≠ '&' ∧ d ≠ ';') = true := fun d hd =>
    decide_eq_true (hname d hd)
  have htake : (name ++ ';' :: rest).takeWhile (fun d => decide (d ≠ '&' ∧ d ≠ ';')) = name := by
    rw [List.takeWhile_append_of_pos hall]
    simp
  have hdrop : (name ++ ';' :: rest).dropWhile (fun d => decide (d ≠ '&' ∧ d ≠ ';'))
      = ';' :: rest := by
    rw [List.dropWhile_append_of_pos hall]
    simp
  rw [resolveFrom, if_pos rfl, htake]
  split
  case h_1 hend => exact absurd (hdrop.symm.trans hend) (List.cons_ne_nil _ _)
  case h_2 mark after hmark =>
    obtain ⟨rfl, rfl⟩ := List.cons.inj (hdrop.symm.trans hmark)
    rw [if_pos rfl, href]
    show (resolveFrom _ _ rest >>= _) = _
    cases resolveFrom size (position + byteSize name + 2) rest <;> rfl

/-- The references of an escaped text are replaced by its characters. -/
theorem resolveFrom_escape (text : List Char) (size position : Nat) :
    resolveFrom size position (escape text) = .ok text := by
  induction text generalizing position with
  | nil => rw [escape_nil, resolveFrom]
  | cons c text ih =>
      rw [escape, List.flatMap_cons]
      rcases escapeChar_cases c with ⟨name, hname, heq, href⟩ | ⟨heq, hamp, -⟩
      · have hends : ∀ d ∈ name, d ≠ '&' ∧ d ≠ ';' := fun d hd =>
          ⟨(hname d hd).1, (hname d hd).2.1⟩
        rw [heq, List.cons_append, List.append_assoc, List.singleton_append,
          resolveFrom_reference hends href]
        exact congrArg _ (ih _)
      · rw [heq, List.singleton_append, resolveFrom_plain hamp]
        exact congrArg _ (ih _)

/-- An escaped text is read as the text. -/
theorem contentText_escape (text : List Char) :
    contentText (encode (escape text)) = .ok text := by
  rw [contentText, decode_encode]
  exact resolveFrom_escape text _ _

/-! ### Names, attributes and tags -/

/-- Whether the character can stand in a name without a meaning of its own in a tag. -/
def isNameChar (c : Char) : Bool :=
  !(c ∈ [' ', '\t', '\n', '\r', '<', '>', '/', '=', '"', '\'', '!', '?', '&'])

/-- The name of an element or an attribute. -/
structure Name where
  /-- The characters. -/
  chars : List Char
  /-- There is at least one. -/
  nonempty : chars ≠ []
  /-- None has a meaning in a tag. -/
  plain : chars.all isNameChar = true

/-- Whether two names are equal but for the case of ASCII letters. -/
def sameLetters (a b : List Char) : Prop := a.map Char.toLower = b.map Char.toLower

instance (a b : List Char) : Decidable (sameLetters a b) :=
  inferInstanceAs (Decidable (a.map Char.toLower = b.map Char.toLower))

theorem lowerCode_code {c : Char} (h : c.toNat < 0x80) :
    lowerCode (code c) = code c.toLower ∧ c.toLower.toNat < 0x80 := by
  -- There are few ASCII characters, so all of them are looked at.
  have hall : ∀ n < 0x80, lowerCode (code (Char.ofNat n)) = code (Char.ofNat n).toLower ∧
      (Char.ofNat n).toLower.toNat < 0x80 := by decide +kernel
  have hc := hall c.toNat h
  rwa [Char.ofNat_toNat] at hc

theorem lowerCode_high {b : UInt8} (h : 0x80 ≤ b.toNat) : lowerCode b = b := by
  have hcapital : ¬(code 'A' ≤ b && b ≤ code 'Z') = true := by
    simp [UInt8.le_iff_toNat_le, code, Char.toUInt8]
    omega
  rw [lowerCode, if_neg hcapital]

/-- The small form of encoded text is the encoded small form. -/
theorem map_lowerCode_encode (text : List Char) :
    (encode text).map lowerCode = encode (text.map Char.toLower) := by
  induction text with
  | nil => rfl
  | cons c text ih =>
      by_cases hc : c.toNat < 0x80
      · obtain ⟨hcode, hascii⟩ := lowerCode_code hc
        rw [encode_cons_of_ascii hc, List.map_cons, List.map_cons, encode_cons_of_ascii hascii,
          hcode, ih]
      · have hhigh : 0x80 ≤ c.toNat := Nat.le_of_not_lt hc
        have hsame : (String.utf8EncodeChar c).map lowerCode = String.utf8EncodeChar c := by
          refine (List.map_congr_left fun b hb => ?_).trans (List.map_id _)
          exact lowerCode_high (high_of_mem_utf8EncodeChar hhigh hb)
        rw [encode_cons, List.map_append, List.map_cons, encode_cons, toLower_high hhigh, hsame,
          ih]

/-- Encoded names are compared as the names are. -/
theorem sameIgnoringCase_encode (a b : List Char) :
    sameIgnoringCase (encode a) (encode b) = decide (sameLetters a b) := by
  rw [sameIgnoringCase, map_lowerCode_encode, map_lowerCode_encode]
  refine decide_eq_decide.mpr ⟨encode_injective, fun h => ?_⟩
  rw [sameLetters] at h
  rw [h]

/-- The attributes of a tag, each a key and a value. -/
structure AttributeList where
  /-- The attributes, in order. -/
  entries : List (Name × List Char)
  /-- No key occurs twice. -/
  distinct : (entries.map (·.1.chars)).Nodup

/-- How attributes are written: each after a space, its value in double quotation marks. -/
def writtenAttributes (entries : List (Name × List Char)) : List Char :=
  entries.flatMap fun (key, value) =>
    ' ' :: (key.chars ++ '=' :: '"' :: (escape value ++ ['"']))

@[simp] theorem writtenAttributes_nil : writtenAttributes [] = [] := rfl

/-- An attribute and the attributes after it, in bytes. -/
theorem encode_writtenAttributes_cons (key : Name) (value : List Char)
    (entries : List (Name × List Char)) :
    encode (writtenAttributes ((key, value) :: entries)) =
      code ' ' :: (encode key.chars ++ code '=' :: code '"' ::
        (encode (escape value) ++ code '"' :: encode (writtenAttributes entries))) := by
  rw [writtenAttributes, List.flatMap_cons, encode_append, encode_cons_of_ascii (by decide),
    encode_append, encode_cons_of_ascii (by decide), encode_cons_of_ascii (by decide),
    encode_append, encode_cons_of_ascii (by decide)]
  simp only [encode_nil, List.cons_append, List.append_assoc, List.nil_append]
  rfl

/-- The content of a tag that begins an element. -/
structure StartTag where
  /-- The element's name. -/
  name : Name
  /-- Its attributes. -/
  attributes : AttributeList

/-- How the content of a tag is written. -/
def StartTag.written (tag : StartTag) : List Char :=
  tag.name.chars ++ writtenAttributes tag.attributes.entries

/-! ### Pieces -/

/-- The end of a comment. -/
def commentEnd : List Char := ['-', '-', '>']

/-- The end of a CDATA section. -/
def sectionEnd : List Char := [']', ']', '>']

/-- The end of a processing instruction. -/
def instructionEnd : List Char := ['?', '>']

/-- A text that can stand between `begin` and `mark`, as the mark is not met before. -/
structure Passage (begin mark : List Char) where
  /-- The characters. -/
  text : List Char
  /-- The mark stands nowhere in them. -/
  free : ¬mark <:+: begin ++ text

/-- A piece of a document. -/
inductive Piece where
  /-- Character data. -/
  | data (text : List Char)
  /-- Character data in a CDATA section. -/
  | cdata (passage : Passage [] sectionEnd)
  /-- A comment. -/
  | comment (passage : Passage [] commentEnd)
  /-- A processing instruction or a declaration. The question mark at its beginning is not
  part of its end. -/
  | instruction (passage : Passage ['?'] instructionEnd)
  /-- The beginning of an element. -/
  | opening (tag : StartTag)
  /-- An element without content. -/
  | empty (tag : StartTag)
  /-- The end of an element. -/
  | closing (name : Name)

/-- How a piece is written. -/
def Piece.written : Piece → List Char
  | .data text => escape text
  | .cdata passage =>
    ['<', '!', '[', 'C', 'D', 'A', 'T', 'A', '['] ++ (passage.text ++ sectionEnd)
  | .comment passage => ['<', '!', '-', '-'] ++ (passage.text ++ commentEnd)
  | .instruction passage => ['<', '?'] ++ (passage.text ++ instructionEnd)
  | .opening tag => '<' :: (tag.written ++ ['>'])
  | .empty tag => '<' :: (tag.written ++ ['/', '>'])
  | .closing name => ['<', '/'] ++ (name.chars ++ ['>'])

/-- How a row of pieces is written. -/
def written (pieces : List Piece) : List Char := pieces.flatMap Piece.written

@[simp] theorem written_nil : written [] = [] := rfl

theorem written_cons (piece : Piece) (pieces : List Piece) :
    written (piece :: pieces) = piece.written ++ written pieces := List.flatMap_cons

end CaseRunner.Markup
