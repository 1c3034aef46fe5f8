/-!
# `CaseRunner.Text.Utf8`: characters as bytes, and back

`encode` writes characters as UTF-8. `decode` reads them back and says where the bytes
stop being UTF-8; `decodeLossy` puts a replacement character there and goes on. Both
look at the bytes one `step` at a time. A step that meets no character says how many
bytes could still have begun one, which is what a replacement character stands for.
-/

set_option autoImplicit false

namespace CaseRunner

/-- A finite stretch of bytes: the content of a file or a pipe. -/
abbrev Bytes := List UInt8

namespace Text

/-- The bytes of a text in UTF-8. -/
def encode (text : List Char) : Bytes := text.flatMap String.utf8EncodeChar

/-- The bytes of a string in UTF-8. -/
def utf8 (s : String) : Bytes := encode s.toList

/-- Whether the byte can continue a character. -/
def isTail (b : UInt8) : Bool := 0x80 ≤ b && b ≤ 0xBF

/-- The bytes that may follow `lead` in a character of three bytes. -/
def secondOfThree (lead b : UInt8) : Bool :=
  if lead = 0xE0 then 0xA0 ≤ b && b ≤ 0xBF
  else if lead = 0xED then 0x80 ≤ b && b ≤ 0x9F
  else isTail b

/-- The bytes that may follow `lead` in a character of four bytes. -/
def secondOfFour (lead b : UInt8) : Bool :=
  if lead = 0xF0 then 0x90 ≤ b && b ≤ 0xBF
  else if lead = 0xF4 then 0x80 ≤ b && b ≤ 0x8F
  else isTail b

/-- What stands at the front of a stretch of bytes. -/
inductive Utf8Piece where
  /-- A character and the bytes after it. -/
  | char (c : Char) (rest : Bytes)
  /-- So many bytes that begin no character, and the bytes after them. -/
  | bad (length : Nat) (rest : Bytes)
  /-- The beginning of a character, cut off by the end of the bytes. -/
  | cut

/-- The low six bits of a byte that continues a character. -/
def tailBits (b : UInt8) : Nat := b.toNat % 0x40

/-- The first piece of the bytes `lead :: rest`. -/
def step (lead : UInt8) (rest : Bytes) : Utf8Piece :=
  if lead < 0x80 then
    .char (Char.ofNat lead.toNat) rest
  else if 0xC2 ≤ lead && lead ≤ 0xDF then
    match rest with
    | [] => .cut
    | b :: rest₁ =>
      if isTail b then .char (Char.ofNat (lead.toNat % 0x20 * 0x40 + tailBits b)) rest₁
      else .bad 1 rest
  else if 0xE0 ≤ lead && lead ≤ 0xEF then
    match rest with
    | [] => .cut
    | b :: rest₁ =>
      if secondOfThree lead b then
        match rest₁ with
        | [] => .cut
        | c :: rest₂ =>
          if isTail c then
            .char (Char.ofNat (lead.toNat % 0x10 * 0x1000 + tailBits b * 0x40 + tailBits c)) rest₂
          else .bad 2 rest₁
      else .bad 1 rest
  else if 0xF0 ≤ lead && lead ≤ 0xF4 then
    match rest with
    | [] => .cut
    | b :: rest₁ =>
      if secondOfFour lead b then
        match rest₁ with
        | [] => .cut
        | c :: rest₂ =>
          if isTail c then
            match rest₂ with
            | [] => .cut
            | d :: rest₃ =>
              if isTail d then
                .char (Char.ofNat (lead.toNat % 0x8 * 0x40000 + tailBits b * 0x1000
                  + tailBits c * 0x40 + tailBits d)) rest₃
              else .bad 3 rest₂
          else .bad 2 rest₁
      else .bad 1 rest
  else
    .bad 1 rest

/-- A character leaves no more than the bytes after its first one. -/
theorem step_char_length {lead : UInt8} {rest left : Bytes} {c : Char}
    (h : step lead rest = .char c left) : left.length ≤ rest.length := by
  unfold step at h
  (repeat' split at h) <;> simp only [Utf8Piece.char.injEq, reduceCtorEq] at h <;>
    obtain ⟨_, rfl⟩ := h <;> grind

/-- A fault leaves no more than the bytes after its first one. -/
theorem step_bad_length {lead : UInt8} {rest left : Bytes} {n : Nat}
    (h : step lead rest = .bad n left) : left.length ≤ rest.length := by
  unfold step at h
  (repeat' split at h) <;> simp only [Utf8Piece.bad.injEq, reduceCtorEq] at h <;>
    obtain ⟨_, rfl⟩ := h <;> grind

/-- A character or a fault, with the number of bytes it covers. -/
inductive Utf8Unit where
  /-- A character. -/
  | char (c : Char) (size : Nat)
  /-- Bytes that begin no character. -/
  | bad (size : Nat)
  /-- A character cut off by the end of the bytes. -/
  | cut
  deriving DecidableEq, Repr

/-- All characters and faults of the bytes, in order. -/
def units (bytes : Bytes) : List Utf8Unit :=
  match bytes with
  | [] => []
  | lead :: rest =>
    match _h : step lead rest with
    | .char c left => .char c (rest.length + 1 - left.length) :: units left
    | .bad n left => .bad n :: units left
    | .cut => [.cut]
termination_by bytes.length
decreasing_by
  · have := step_char_length _h
    simp only [List.length_cons]
    omega
  · have := step_bad_length _h
    simp only [List.length_cons]
    omega

/-- Why bytes are not UTF-8. -/
structure Utf8Fault where
  /-- The number of bytes before the fault, all of them UTF-8. -/
  validUpTo : Nat
  /-- The number of bytes at fault, or none if the bytes end within a character. -/
  length : Option Nat
  deriving DecidableEq, Repr

/-- What a fault is called. -/
def Utf8Fault.message (fault : Utf8Fault) : String :=
  match fault.length with
  | some n => s!"invalid utf-8 sequence of {n} bytes from index {fault.validUpTo}"
  | none => s!"incomplete utf-8 byte sequence from index {fault.validUpTo}"

/-- The characters of units that follow `seen` bytes, or the first fault among them. -/
def charsFrom (seen : Nat) : List Utf8Unit → Except Utf8Fault (List Char)
  | [] => .ok []
  | .char c size :: rest => (charsFrom (seen + size) rest).map (c :: ·)
  | .bad size :: _ => .error ⟨seen, some size⟩
  | .cut :: _ => .error ⟨seen, none⟩

/-- The characters of bytes that are UTF-8 throughout. -/
def decode (bytes : Bytes) : Except Utf8Fault (List Char) := charsFrom 0 (units bytes)

/-- The character that stands for bytes that are none. -/
def replacement : Char := Char.ofNat 0xFFFD

/-- The unit's character, or the replacement character for a fault. -/
def Utf8Unit.shown : Utf8Unit → Char
  | .char c _ => c
  | .bad _ => replacement
  | .cut => replacement

/-- The characters of any bytes, with a replacement character for each fault. -/
def decodeLossy (bytes : Bytes) : List Char := (units bytes).map Utf8Unit.shown

/-- The string that the bytes spell, if they are UTF-8. -/
def decodeString (bytes : Bytes) : Except Utf8Fault String :=
  (decode bytes).map String.ofList

/-- The string that the bytes spell, with replacement characters. -/
def decodeStringLossy (bytes : Bytes) : String := String.ofList (decodeLossy bytes)

end Text

end CaseRunner
