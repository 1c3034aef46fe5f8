import CaseRunner.Markup.Token
import CaseRunner.Text.Utf8

/-!
# `CaseRunner.Proofs.Text.Utf8`: reading back what was encoded

A character takes one to four bytes, and no byte of a character beyond ASCII is an ASCII
code. Two things follow:

* `decode_encode`, `decodeLossy_encode`: the bytes of a text are read as that text.
* `code_mem_encode`, `infix_of_encode`: ASCII characters are found in the bytes of a text
  exactly where they stand in the text.
-/

set_option autoImplicit false

namespace CaseRunner.Text

open CaseRunner.Markup (code)

@[simp] theorem encode_nil : encode [] = [] := rfl

theorem encode_cons (c : Char) (text : List Char) :
    encode (c :: text) = String.utf8EncodeChar c ++ encode text := List.flatMap_cons

@[simp] theorem encode_append (a b : List Char) : encode (a ++ b) = encode a ++ encode b :=
  List.flatMap_append

/-! ### One character -/

theorem char_ofNat_eq {c : Char} {n : Nat} (h : n = c.val.toNat) : Char.ofNat n = c := by
  subst h
  exact Char.ofNat_toNat c

theorem isTail_eq {b : UInt8} (low : 0x80 ≤ b.toNat) (high : b.toNat < 0xC0) :
    isTail b = true := by
  simp only [isTail, UInt8.le_iff_toNat_le, Bool.and_eq_true, decide_eq_true_eq]
  exact ⟨low, Nat.le_of_lt_succ high⟩

theorem step_one {lead : UInt8} (h : lead.toNat < 0x80) (rest : Bytes) :
    step lead rest = .char (Char.ofNat lead.toNat) rest := by
  have hlead : lead < 0x80 := UInt8.lt_iff_toNat_lt.mpr h
  unfold step
  rw [if_pos hlead]

theorem step_two {lead b : UInt8} (low : 0xC2 ≤ lead.toNat) (high : lead.toNat < 0xE0)
    (hb : isTail b = true) (rest : Bytes) :
    step lead (b :: rest) = .char (Char.ofNat (lead.toNat % 0x20 * 0x40 + tailBits b)) rest := by
  have hone : ¬lead < 0x80 := by
    simp [UInt8.lt_iff_toNat_lt]
    omega
  have htwo : (0xC2 ≤ lead && lead ≤ 0xDF) = true := by
    simp [UInt8.le_iff_toNat_le]
    omega
  unfold step
  rw [if_neg hone, if_pos htwo]
  simp only [hb, if_true]

theorem step_three {lead b c : UInt8} (low : 0xE0 ≤ lead.toNat) (high : lead.toNat < 0xF0)
    (hb : secondOfThree lead b = true) (hc : isTail c = true) (rest : Bytes) :
    step lead (b :: c :: rest) = .char
      (Char.ofNat (lead.toNat % 0x10 * 0x1000 + tailBits b * 0x40 + tailBits c)) rest := by
  have hone : ¬lead < 0x80 := by
    simp [UInt8.lt_iff_toNat_lt]
    omega
  have htwo : ¬(0xC2 ≤ lead && lead ≤ 0xDF) = true := by
    simp [UInt8.le_iff_toNat_le]
    omega
  have hthree : (0xE0 ≤ lead && lead ≤ 0xEF) = true := by
    simp [UInt8.le_iff_toNat_le]
    omega
  unfold step
  rw [if_neg hone, if_neg htwo, if_pos hthree]
  simp only [hb, hc, if_true]

theorem step_four {lead b c d : UInt8} (low : 0xF0 ≤ lead.toNat) (high : lead.toNat < 0xF5)
    (hb : secondOfFour lead b = true) (hc : isTail c = true) (hd : isTail d = true)
    (rest : Bytes) :
    step lead (b :: c :: d :: rest) = .char (Char.ofNat (lead.toNat % 0x8 * 0x40000
      + tailBits b * 0x1000 + tailBits c * 0x40 + tailBits d)) rest := by
  have hone : ¬lead < 0x80 := by
    simp [UInt8.lt_iff_toNat_lt]
    omega
  have htwo : ¬(0xC2 ≤ lead && lead ≤ 0xDF) = true := by
    simp [UInt8.le_iff_toNat_le]
    omega
  have hthree : ¬(0xE0 ≤ lead && lead ≤ 0xEF) = true := by
    simp [UInt8.le_iff_toNat_le]
    omega
  have hfour : (0xF0 ≤ lead && lead ≤ 0xF4) = true := by
    simp [UInt8.le_iff_toNat_le]
    omega
  unfold step
  rw [if_neg hone, if_neg htwo, if_neg hthree, if_pos hfour]
  simp only [hb, hc, hd, if_true]

theorem secondOfThree_eq {lead b : UInt8} (low : 0x80 ≤ b.toNat) (high : b.toNat < 0xC0)
    (hE0 : lead.toNat = 0xE0 → 0xA0 ≤ b.toNat) (hED : lead.toNat = 0xED → b.toNat < 0xA0) :
    secondOfThree lead b = true := by
  simp only [secondOfThree, isTail, ← UInt8.toNat_inj, UInt8.le_iff_toNat_le]
  split
  · simp_all; omega
  · split
    · simp_all; omega
    · simp_all; omega

theorem secondOfFour_eq {lead b : UInt8} (low : 0x80 ≤ b.toNat) (high : b.toNat < 0xC0)
    (hF0 : lead.toNat = 0xF0 → 0x90 ≤ b.toNat) (hF4 : lead.toNat = 0xF4 → b.toNat < 0x90) :
    secondOfFour lead b = true := by
  simp only [secondOfFour, isTail, ← UInt8.toNat_inj, UInt8.le_iff_toNat_le]
  split
  · simp_all; omega
  · split
    · simp_all; omega
    · simp_all; omega

theorem ofNat_toNat {n : Nat} (h : n < 256) : (UInt8.ofNat n).toNat = n :=
  UInt8.toNat_ofNat_of_lt h

/-- A character is read back from its bytes, whatever follows them. -/
theorem step_utf8EncodeChar (c : Char) : ∃ lead tail,
    String.utf8EncodeChar c = lead :: tail ∧
      ∀ rest, step lead (tail ++ rest) = .char c rest := by
  -- The lead byte tells how many bytes follow. The bounds on them hold since the code point
  -- is no surrogate and is below 0x110000, and a shorter form would have been chosen.
  have hvalid : c.val.toNat < 0xD800 ∨ (0xDFFF < c.val.toNat ∧ c.val.toNat < 0x110000) := c.valid
  simp only [String.utf8EncodeChar]
  generalize hv : c.val.toNat = v at hvalid
  split
  case isTrue hone =>
    refine ⟨_, _, rfl, fun rest => ?_⟩
    have hlead : (UInt8.ofNat v).toNat = v := ofNat_toNat (by omega)
    rw [List.nil_append, step_one (by omega), char_ofNat_eq (c := c) (by omega)]
  case isFalse hone =>
    split
    case isTrue htwo =>
      have hlead := ofNat_toNat (show v / 64 % 0x20 + 0xc0 < 256 by omega)
      have hb := ofNat_toNat (show v % 0x40 + 0x80 < 256 by omega)
      refine ⟨_, _, rfl, fun rest => ?_⟩
      rw [List.cons_append, List.nil_append, step_two (by omega) (by omega)
          (isTail_eq (by omega) (by omega)),
        char_ofNat_eq (c := c) (by simp only [tailBits]; omega)]
    case isFalse htwo =>
      split
      case isTrue hthree =>
        have hlead := ofNat_toNat (show v / 4096 % 0x10 + 0xe0 < 256 by omega)
        have hb := ofNat_toNat (show v / 64 % 0x40 + 0x80 < 256 by omega)
        have hc := ofNat_toNat (show v % 0x40 + 0x80 < 256 by omega)
        refine ⟨_, _, rfl, fun rest => ?_⟩
        rw [List.cons_append, List.cons_append, List.nil_append, step_three (by omega) (by omega)
          (secondOfThree_eq (by omega) (by omega) (by omega) (by omega))
          (isTail_eq (by omega) (by omega)),
          char_ofNat_eq (c := c) (by simp only [tailBits]; omega)]
      case isFalse hthree =>
        have hlead := ofNat_toNat (show v / 262144 % 0x08 + 0xf0 < 256 by omega)
        have hb := ofNat_toNat (show v / 4096 % 0x40 + 0x80 < 256 by omega)
        have hc := ofNat_toNat (show v / 64 % 0x40 + 0x80 < 256 by omega)
        have hd := ofNat_toNat (show v % 0x40 + 0x80 < 256 by omega)
        refine ⟨_, _, rfl, fun rest => ?_⟩
        rw [List.cons_append, List.cons_append, List.cons_append, List.nil_append,
          step_four (by omega) (by omega)
          (secondOfFour_eq (by omega) (by omega) (by omega) (by omega))
          (isTail_eq (by omega) (by omega)) (isTail_eq (by omega) (by omega)),
          char_ofNat_eq (c := c) (by simp only [tailBits]; omega)]

/-! ### Whole texts -/

theorem units_cons {lead : UInt8} {rest left : Bytes} {c : Char}
    (h : step lead rest = .char c left) :
    units (lead :: rest) = .char c (rest.length + 1 - left.length) :: units left := by
  rw [units]
  split <;> simp_all

/-- The first unit of an encoded text is its first character. -/
theorem units_encode_cons (c : Char) (text : List Char) :
    ∃ size, units (encode (c :: text)) = .char c size :: units (encode text) := by
  obtain ⟨lead, tail, hc, hstep⟩ := step_utf8EncodeChar c
  rw [encode_cons, hc, List.cons_append, units_cons (hstep (encode text))]
  exact ⟨_, rfl⟩

theorem charsFrom_encode (text : List Char) (seen : Nat) :
    charsFrom seen (units (encode text)) = .ok text := by
  induction text generalizing seen with
  | nil => rw [encode_nil, units]; rfl
  | cons c text ih =>
      obtain ⟨size, hsize⟩ := units_encode_cons c text
      rw [hsize, charsFrom, ih]
      rfl

/-- The bytes of a text are read as that text. -/
theorem decode_encode (text : List Char) : decode (encode text) = .ok text :=
  charsFrom_encode text 0

/-- The bytes of a text hold nothing that needs a replacement character. -/
theorem decodeLossy_encode (text : List Char) : decodeLossy (encode text) = text := by
  induction text with
  | nil => rw [decodeLossy, encode_nil, units]; rfl
  | cons c text ih =>
      obtain ⟨size, hsize⟩ := units_encode_cons c text
      rw [decodeLossy, hsize, List.map_cons]
      exact congrArg _ ih

theorem encode_injective {a b : List Char} (h : encode a = encode b) : a = b := by
  rw [← decodeLossy_encode a, h, decodeLossy_encode]

/-! ### ASCII codes among the bytes -/

theorem utf8EncodeChar_of_ascii {c : Char} (h : c.toNat < 0x80) :
    String.utf8EncodeChar c = [code c] := by
  have hle : c.val.toNat ≤ 0x7f := Nat.le_of_lt_succ h
  simp only [String.utf8EncodeChar, if_pos hle]
  rfl

theorem encode_cons_of_ascii {c : Char} (h : c.toNat < 0x80) (text : List Char) :
    encode (c :: text) = code c :: encode text := by
  rw [encode_cons, utf8EncodeChar_of_ascii h]
  rfl

theorem encode_of_ascii {text : List Char} (h : ∀ c ∈ text, c.toNat < 0x80) :
    encode text = text.map code := by
  induction text with
  | nil => rfl
  | cons c text ih =>
      rw [encode_cons_of_ascii (h c List.mem_cons_self), List.map_cons,
        ih fun d hd => h d (List.mem_cons_of_mem _ hd)]

theorem encode_ne_nil {text : List Char} (h : text ≠ []) : encode text ≠ [] := by
  intro heq
  rw [← encode_nil] at heq
  exact h (encode_injective heq)

theorem code_toNat {c : Char} (h : c.toNat < 0x80) : (code c).toNat = c.toNat := by
  show c.val.toNat % 256 = c.val.toNat
  have : c.val.toNat < 0x80 := h
  omega

theorem code_injective {c d : Char} (hc : c.toNat < 0x80) (hd : d.toNat < 0x80)
    (h : code c = code d) : c = d := by
  have hnat : c.toNat = d.toNat := by rw [← code_toNat hc, h, code_toNat hd]
  rw [← Char.ofNat_toNat c, hnat, Char.ofNat_toNat]

/-- No byte of a character beyond ASCII is an ASCII code. -/
theorem high_of_mem_utf8EncodeChar {c : Char} (h : 0x80 ≤ c.toNat) {b : UInt8}
    (hb : b ∈ String.utf8EncodeChar c) : 0x80 ≤ b.toNat := by
  have hone : ¬c.val.toNat ≤ 0x7f := Nat.not_le_of_lt h
  simp only [String.utf8EncodeChar, if_neg hone] at hb
  split at hb
  · simp only [List.mem_cons, List.not_mem_nil, or_false] at hb
    rcases hb with rfl | rfl <;> rw [ofNat_toNat (by omega)] <;> omega
  · split at hb
    · simp only [List.mem_cons, List.not_mem_nil, or_false] at hb
      rcases hb with rfl | rfl | rfl <;> rw [ofNat_toNat (by omega)] <;> omega
    · simp only [List.mem_cons, List.not_mem_nil, or_false] at hb
      rcases hb with rfl | rfl | rfl | rfl <;> rw [ofNat_toNat (by omega)] <;> omega

/-- A byte of a text is the code of an ASCII character in it, or no ASCII code at all. -/
theorem mem_encode_cases {b : UInt8} {text : List Char} (h : b ∈ encode text) :
    (∃ c ∈ text, c.toNat < 0x80 ∧ b = code c) ∨ 0x80 ≤ b.toNat := by
  obtain ⟨c, hc, hb⟩ := List.mem_flatMap.mp h
  by_cases hascii : c.toNat < 0x80
  · rw [utf8EncodeChar_of_ascii hascii] at hb
    exact .inl ⟨c, hc, hascii, List.mem_singleton.mp hb⟩
  · exact .inr (high_of_mem_utf8EncodeChar (Nat.le_of_not_lt hascii) hb)

/-- An ASCII code is among the bytes of a text exactly if its character is in the text. -/
theorem code_mem_encode {c : Char} (h : c.toNat < 0x80) (text : List Char) :
    code c ∈ encode text ↔ c ∈ text := by
  constructor
  case mp =>
    intro hmem
    rcases mem_encode_cases hmem with ⟨d, hd, hascii, hcode⟩ | hhigh
    · rwa [code_injective h hascii hcode]
    · rw [code_toNat h] at hhigh
      omega
  case mpr =>
    intro hmem
    refine List.mem_flatMap.mpr ⟨c, hmem, ?_⟩
    rw [utf8EncodeChar_of_ascii h]
    exact List.mem_singleton.mpr rfl

/-- The codes of ASCII characters begin the bytes of a text only if the characters begin the
text. -/
theorem prefix_of_encode {mark text : List Char} (hascii : ∀ c ∈ mark, c.toNat < 0x80)
    (h : mark.map code <+: encode text) : mark <+: text := by
  -- By induction on the mark: each of its codes has to be the whole of the next character.
  induction mark generalizing text with
  | nil => exact List.nil_prefix
  | cons m mark ih =>
      have hm : m.toNat < 0x80 := hascii m List.mem_cons_self
      cases text with
      | nil => exact absurd (List.prefix_nil.mp h) (List.cons_ne_nil _ _)
      | cons c text =>
          by_cases hc : c.toNat < 0x80
          · rw [encode_cons_of_ascii hc, List.map_cons, List.cons_prefix_cons] at h
            rw [code_injective hm hc h.1, List.cons_prefix_cons]
            exact ⟨rfl, ih (fun d hd => hascii d (List.mem_cons_of_mem _ hd)) h.2⟩
          · -- The text would begin with a byte that is no ASCII code.
            obtain ⟨lead, tail, hlead, -⟩ := step_utf8EncodeChar c
            rw [encode_cons, hlead, List.map_cons, List.cons_append, List.cons_prefix_cons] at h
            have hmem : lead ∈ String.utf8EncodeChar c := hlead ▸ List.mem_cons_self
            have hhigh := high_of_mem_utf8EncodeChar (Nat.le_of_not_lt hc) hmem
            rw [← h.1, code_toNat hm] at hhigh
            omega

/-- A stretch that begins with `m` begins after those elements that are not `m`. -/
theorem infix_of_infix_append {α : Type} {m : α} {mark skipped rest : List α}
    (hskipped : ∀ b ∈ skipped, b ≠ m) (h : m :: mark <:+: skipped ++ rest) :
    m :: mark <:+: rest := by
  induction skipped with
  | nil => exact h
  | cons b skipped ih =>
      rcases List.infix_cons_iff.mp h with hfirst | hlater
      · have heq := (List.cons_prefix_cons.mp hfirst).1
        exact absurd heq.symm (hskipped b List.mem_cons_self)
      · exact ih (fun d hd => hskipped d (List.mem_cons_of_mem _ hd)) hlater

/-- The codes of ASCII characters stand in the bytes of a text only if the characters stand
in the text. -/
theorem infix_of_encode {mark text : List Char} (hne : mark ≠ [])
    (hascii : ∀ c ∈ mark, c.toNat < 0x80) (h : mark.map code <:+: encode text) :
    mark <:+: text := by
  obtain ⟨m, mark, rfl⟩ := List.exists_cons_of_ne_nil hne
  have hm : m.toNat < 0x80 := hascii m List.mem_cons_self
  induction text with
  | nil => exact absurd (List.infix_nil.mp h) (List.cons_ne_nil _ _)
  | cons c text ih =>
      by_cases hc : c.toNat < 0x80
      · rw [encode_cons_of_ascii hc] at h
        rcases List.infix_cons_iff.mp h with hfirst | hlater
        · rw [← encode_cons_of_ascii hc] at hfirst
          exact (prefix_of_encode hascii hfirst).isInfix
        · exact List.infix_cons (ih hlater)
      · -- None of the bytes of `c` is the first of the mark, so it begins after them.
        rw [encode_cons] at h
        refine List.infix_cons (ih (infix_of_infix_append (fun b hb heq => ?_) h))
        have hhigh := high_of_mem_utf8EncodeChar (Nat.le_of_not_lt hc) hb
        rw [heq, code_toNat hm] at hhigh
        omega

end CaseRunner.Text
