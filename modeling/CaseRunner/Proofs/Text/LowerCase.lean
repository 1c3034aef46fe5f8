import CaseRunner.Text.LowerCase

/-!
# `CaseRunner.Proofs.Text.LowerCase`: texts whose small form is a plain word

The small form of a character beyond ASCII has a character beyond ASCII in it, but for the Kelvin
sign, whose small form is a plain `k` (`exists_mem_lowerChar`). So only the letters of a word
itself, small or capital, have the word as their small form, if it is in ASCII and has no `k`
(`lower_eq_iff`).
-/

set_option autoImplicit false

namespace CaseRunner.Text

variable {c : Char} {n m : Nat}

/-! ### One character -/

/-- Only capital letters change. -/
theorem toLower_cases (c : Char) : c.toLower = c ∨ 0x41 ≤ c.toNat ∧ c.toNat ≤ 0x5A := by
  by_cases hcapital : c.val ≥ 'A'.val ∧ c.val ≤ 'Z'.val
  · exact .inr ⟨UInt32.le_iff_toNat_le.mp hcapital.1, UInt32.le_iff_toNat_le.mp hcapital.2⟩
  · exact .inl (dif_neg hcapital)

theorem toLower_high (h : 0x80 ≤ c.toNat) : c.toLower = c :=
  (toLower_cases c).resolve_right (by omega)

/-- What a row maps to is a character, and one beyond ASCII if it is no `k`. -/
theorem apply_cases {row : LowerRow} (hrow : row ∈ lowerRows) (h : row.apply n = some m) :
    m.isValidChar ∧ (0x80 ≤ m ∨ m = 0x6B) := by
  -- This is told by the two ends of a row, so there is one check for each row.
  have hends : ∀ row ∈ lowerRows, (row.target + (row.last - row.first) < 0xD800 ∨
      0xDFFF < row.target ∧ row.target + (row.last - row.first) < 0x110000) ∧
      (0x80 ≤ row.target ∨ row.target = 0x6B ∧ row.first = row.last) := by decide +kernel
  obtain ⟨hvalid, hhigh⟩ := hends row hrow
  unfold LowerRow.apply at h
  split at h
  · rename_i hbounds
    simp only [Option.some.injEq] at h
    exact ⟨by unfold Nat.isValidChar; omega, by omega⟩
  · cases h

theorem toNat_ofNat (h : n.isValidChar) : (Char.ofNat n).toNat = n := by
  rw [Char.ofNat, dif_pos h]
  rfl

/-- In the small form of a character beyond ASCII there is one beyond ASCII, or a `k`. -/
theorem exists_mem_lowerChar (h : 0x80 ≤ c.toNat) :
    ∃ d ∈ lowerChar c, 0x80 ≤ d.toNat ∨ d = 'k' := by
  unfold lowerChar
  rw [if_neg (by omega)]
  split
  · exact ⟨Char.ofNat 0x307, by simp, .inl (by decide)⟩
  · split
    · rename_i m hfound
      obtain ⟨row, hrow, happly⟩ := List.exists_of_findSome?_eq_some hfound
      obtain ⟨hvalid, hhigh⟩ := apply_cases hrow happly
      refine ⟨Char.ofNat m, List.mem_singleton_self _, hhigh.imp ?_ ?_⟩
      · rw [toNat_ofNat hvalid]
        exact id
      · rintro rfl
        rfl
    · exact ⟨c, List.mem_singleton_self c, .inl h⟩

/-! ### Words -/

/-- A text in ASCII that has no `k`. -/
def Plain (word : List Char) : Prop := ∀ c ∈ word, c.toNat < 0x80 ∧ c ≠ 'k'

instance (word : List Char) : Decidable (Plain word) := List.decidableBAll _ word

theorem lowerAfter_eq_iff {text word : List Char} (before : List Char) (h : Plain word) :
    lowerAfter before text = word ↔ text.map Char.toLower = word := by
  induction text generalizing before word with
  | nil => rfl
  | cons c rest ih =>
      by_cases hc : c.toNat < 0x80
      · -- A character in ASCII has one small form, whatever stands around it.
        have hsmall : lowerAfter before (c :: rest) = c.toLower :: lowerAfter (c :: before) rest := by
          rw [lowerAfter, if_neg (by omega), lowerChar, if_pos hc]
          rfl
        rw [hsmall, List.map_cons]
        cases word with
        | nil => simp
        | cons d word =>
            have hrest := ih (c :: before) fun e he => h e (List.mem_cons_of_mem d he)
            simp only [List.cons.injEq, hrest]
      · -- Neither of the two sides can be a plain word.
        have hother : ∃ d ∈ lowerAfter before (c :: rest), 0x80 ≤ d.toNat ∨ d = 'k' := by
          rw [lowerAfter]
          by_cases hsigma : c.toNat = 0x3A3
          · rw [if_pos hsigma]
            split
            · exact ⟨Char.ofNat 0x3C2, by simp, .inl (by decide)⟩
            · exact ⟨Char.ofNat 0x3C3, by simp, .inl (by decide)⟩
          · rw [if_neg hsigma]
            obtain ⟨d, hd, hhigh⟩ := exists_mem_lowerChar (Nat.le_of_not_lt hc)
            exact ⟨d, List.mem_append_left _ hd, hhigh⟩
        constructor
        · rintro rfl
          obtain ⟨d, hd, hhigh⟩ := hother
          obtain ⟨hlow, hk⟩ := h d hd
          rcases hhigh with hhigh | hletter
          · omega
          · exact absurd hletter hk
        · rintro rfl
          have := h c.toLower List.mem_cons_self
          rw [toLower_high (Nat.le_of_not_lt hc)] at this
          omega

/-- A text has a plain word as its small form if its letters are those of the word, small or
capital. -/
theorem lower_eq_iff {text word : List Char} (h : Plain word) :
    lower text = word ↔ text.map Char.toLower = word :=
  lowerAfter_eq_iff [] h

end CaseRunner.Text
