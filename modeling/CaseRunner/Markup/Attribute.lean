import CaseRunner.Markup.Token

/-!
# `CaseRunner.Markup.Attribute`: the attributes of a tag

After its name a tag holds attributes, each a key, an equals sign and a quoted value,
with white space allowed between these and none needed between two attributes. A key
goes on to an equals sign or white space, whatever else it holds; its first byte belongs
to it in any case. Two attributes of one tag have different keys.

Attributes are read up to the first fault. Positions count the bytes of the tag's
content.
-/

set_option autoImplicit false

namespace CaseRunner.Markup

/-- Why the attributes of a tag cannot be read further. -/
inductive AttributeFault where
  /-- Something other than an equals sign follows a key. -/
  | missingEquals (position : Nat)
  /-- The tag ends after an equals sign. -/
  | missingValue (position : Nat)
  /-- A value does not begin with a quotation mark. -/
  | unquotedValue (position : Nat)
  /-- A value does not end with the quotation mark it begins with. -/
  | openValue (position : Nat) (quotation : Char)
  /-- A key occurs again. -/
  | duplicateKey (position earlier : Nat)
  deriving DecidableEq, Repr

/-- What an attribute fault is called. -/
def AttributeFault.message : AttributeFault → String
  | .missingEquals p =>
    s!"position {p}: attribute key must be directly followed by `=` or space"
  | .missingValue p => s!"position {p}: `=` must be followed by an attribute value"
  | .unquotedValue p => s!"position {p}: attribute value must be enclosed in `\"` or `'`"
  | .openValue p q => s!"position {p}: missing closing quote `{q}` in attribute value"
  | .duplicateKey p earlier =>
    s!"position {p}: duplicated attribute, previous declaration at position {earlier}"

/-- An attribute as written. -/
structure RawAttribute where
  /-- Where the key begins. -/
  position : Nat
  /-- The key. -/
  key : Bytes
  /-- What stands between the quotation marks. -/
  value : Bytes
  deriving DecidableEq, Repr

/-- Whether a key ends before the byte. -/
def endsKey (b : UInt8) : Bool := b = code '=' || isSpace b

/-- The outcome of reading a key and the equals sign after it. -/
inductive KeyScan where
  /-- No attribute is left. -/
  | finished
  /-- A key that begins at `position`, and what follows its equals sign. -/
  | key (position : Nat) (key : Bytes) (rest : Bytes)
  /-- A key without an equals sign. -/
  | broken (fault : AttributeFault)
  deriving DecidableEq, Repr

/-- Reads the equals sign after a key, in a content of `size` bytes. -/
def scanEquals (size position : Nat) (key s : Bytes) : KeyScan :=
  match s.dropWhile isSpace with
  | [] => .broken (.missingEquals size)
  | b :: rest =>
    if b = code '=' then .key position key rest
    else .broken (.missingEquals (size - (rest.length + 1)))

/-- Reads a key and its equals sign from `s`, the end of a content of `size` bytes. -/
def scanKey (size : Nat) (s : Bytes) : KeyScan :=
  match s.dropWhile isSpace with
  | [] => .finished
  | b :: rest =>
    scanEquals size (size - (rest.length + 1)) (b :: rest.takeWhile (!endsKey ·))
      (rest.dropWhile (!endsKey ·))

/-- Reads the rest of a value that began with `quotation`. -/
def scanQuoted (size : Nat) (quotation : Char) (s : Bytes) :
    Except AttributeFault (Bytes × Bytes) :=
  match s.dropWhile (· ≠ code quotation) with
  | [] => .error (.openValue size quotation)
  | _ :: rest => .ok (s.takeWhile (· ≠ code quotation), rest)

/-- Reads a value from `s`, the end of a content of `size` bytes. -/
def scanValue (size : Nat) (s : Bytes) : Except AttributeFault (Bytes × Bytes) :=
  match s.dropWhile isSpace with
  | [] => .error (.missingValue size)
  | b :: rest =>
    if b = code '"' then scanQuoted size '"' rest
    else if b = code '\'' then scanQuoted size '\'' rest
    else .error (.unquotedValue (size - (rest.length + 1)))

/-- A key takes something from the content. -/
theorem scanKey_length {size position : Nat} {s key rest : Bytes}
    (h : scanKey size s = .key position key rest) : rest.length < s.length := by
  unfold scanKey at h
  have h₁ := dropWhile_length_le isSpace s
  split at h
  · simp at h
  · rename_i b tail heq
    rw [heq] at h₁
    unfold scanEquals at h
    have h₂ := dropWhile_length_le (!endsKey ·) tail
    have h₃ := dropWhile_length_le isSpace (tail.dropWhile (!endsKey ·))
    split at h
    · simp at h
    · rename_i heq₂
      rw [heq₂] at h₃
      split at h
      · simp only [KeyScan.key.injEq] at h
        simp only [List.length_cons] at h₁ h₃
        rw [← h.2.2]
        omega
      · simp at h

/-- The rest of a value takes something from what is left. -/
theorem scanQuoted_length {size : Nat} {quotation : Char} {s value rest : Bytes}
    (h : scanQuoted size quotation s = .ok (value, rest)) : rest.length < s.length := by
  unfold scanQuoted at h
  have h₁ := dropWhile_length_le (· ≠ code quotation) s
  split at h
  · simp at h
  · rename_i heq
    rw [heq] at h₁
    simp only [Except.ok.injEq, Prod.mk.injEq] at h
    simp only [List.length_cons] at h₁
    rw [← h.2]
    omega

/-- A value takes something from what is left. -/
theorem scanValue_length {size : Nat} {s value rest : Bytes}
    (h : scanValue size s = .ok (value, rest)) : rest.length < s.length := by
  unfold scanValue at h
  have h₁ := dropWhile_length_le isSpace s
  split at h
  · simp at h
  · rename_i heq
    rw [heq] at h₁
    simp only [List.length_cons] at h₁
    split at h
    · have := scanQuoted_length h
      omega
    · split at h
      · have := scanQuoted_length h
        omega
      · simp at h

/-- Reads the attributes left in `s`, the end of a content of `size` bytes, after `seen`.
A key that occurs again is a fault before its value is looked at. -/
def attributesFrom (size : Nat) (seen : List RawAttribute) (s : Bytes) :
    List RawAttribute × Option AttributeFault :=
  match _h : scanKey size s with
  | .finished => ([], none)
  | .broken fault => ([], some fault)
  | .key position key rest =>
    match seen.find? (·.key = key) with
    | some earlier => ([], some (.duplicateKey position earlier.position))
    | none =>
      match _h₂ : scanValue size rest with
      | .error fault => ([], some fault)
      | .ok (value, rest) =>
        let first : RawAttribute := ⟨position, key, value⟩
        let (others, fault) := attributesFrom size (seen ++ [first]) rest
        (first :: others, fault)
termination_by s.length
decreasing_by
  have := scanKey_length _h
  have := scanValue_length _h₂
  omega

/-- A tag, as what stands between its brackets. -/
structure Tag where
  /-- The content, without the slash of a tag that closes itself. -/
  content : Bytes
  deriving DecidableEq, Repr

/-- The name of a tag: its content up to the first white space. -/
def Tag.name (tag : Tag) : Bytes := tag.content.takeWhile (!isSpace ·)

/-- The attributes of a tag up to the first fault, and that fault. -/
def Tag.attributes (tag : Tag) : List RawAttribute × Option AttributeFault :=
  attributesFrom tag.content.length [] (tag.content.dropWhile (!isSpace ·))

end CaseRunner.Markup
