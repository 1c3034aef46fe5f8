import CaseRunner.Text.Blank
import CaseRunner.Text.Numeral

/-!
# `CaseRunner.Proofs.Text.Numeral`: reading the decimal form of a number

A number of the range asked for is read from its decimal form, and white space around it is
trimmed away:

* `readInteger_repr`: the decimal form of a number is read as the number, so different numbers have
  different forms (`repr_injective`).
* `trim_repr`: trimming leaves the decimal form and nothing else.
-/

set_option autoImplicit false

namespace CaseRunner.Text

variable {limit : Nat} {excess : NumeralFault}

theorem digitValue_of_isDigit {c : Char} (h : c.isDigit = true) :
    digitValue 10 c = some (c.toNat - '0'.toNat) := by
  have hbounds : 48 ≤ c.val ∧ c.val ≤ 57 := by simpa [Char.isDigit] using h
  have hlast : c.toNat ≤ 57 := UInt32.le_iff_toNat_le.mp hbounds.2
  have hvalue : c.toNat - '0'.toNat < 10 := by
    show c.toNat - 48 < 10
    omega
  unfold digitValue
  rw [if_pos (show '0' ≤ c ∧ c ≤ '9' from hbounds)]
  exact Option.filter_some_pos (decide_eq_true hvalue)

/-- Digits that follow make a number no smaller. -/
theorem le_ofDigitChars (digits : List Char) (value : Nat) :
    value ≤ Nat.ofDigitChars 10 digits value := by
  rw [Nat.ofDigitChars_eq_ofDigitChars_zero]
  exact Nat.le_add_right_of_le (Nat.le_mul_of_pos_left value (Nat.pow_pos (by omega)))

/-- A run of digits is read as the number that it stands for, unless that is above the limit. -/
theorem readDigits_of_isDigit {value : Nat} {digits : List Char}
    (h : ∀ c ∈ digits, c.isDigit = true) (hvalue : value ≤ limit) :
    readDigits 10 limit excess value digits =
      if Nat.ofDigitChars 10 digits value ≤ limit then .ok (Nat.ofDigitChars 10 digits value)
      else .error excess := by
  induction digits generalizing value with
  | nil => rw [readDigits, Nat.ofDigitChars_nil, if_pos hvalue]
  | cons c digits ih =>
      rw [readDigits, digitValue_of_isDigit (h c List.mem_cons_self), Nat.ofDigitChars_cons,
        Nat.mul_comm 10 value]
      dsimp only
      split
      · rename_i hexcess
        -- The value is above the limit already, and the other digits make it no smaller.
        have hmore := le_ofDigitChars digits (value * 10 + (c.toNat - '0'.toNat))
        rw [if_neg (by omega)]
      · rename_i hfits
        exact ih (fun d hd => h d (List.mem_cons_of_mem c hd)) (Nat.le_of_not_lt hfits)

/-- The digits of a number within the limit are read as the number. -/
theorem readDigits_toDigits {n : Nat} (h : n ≤ limit) :
    readDigits 10 limit excess 0 (Nat.toDigits 10 n) = .ok n := by
  have hdigits : ∀ c ∈ Nat.toDigits 10 n, c.isDigit = true := fun c hc =>
    Nat.isDigit_of_mem_toDigits (by omega) (by omega) hc
  rw [readDigits_of_isDigit hdigits (Nat.zero_le _), Nat.ofDigitChars_ten_toDigits, if_pos h]

/-- A run of digits is a number without a sign. -/
theorem readNatural_of_isDigit {digits : List Char} (hne : digits ≠ [])
    (h : ∀ c ∈ digits, c.isDigit = true) : readNatural 10 limit digits =
      if Nat.ofDigitChars 10 digits 0 ≤ limit then .ok (Nat.ofDigitChars 10 digits 0)
      else .error .tooLarge := by
  have hplus : '+' ∉ digits := fun hmem => absurd (h _ hmem) (by decide)
  rw [← readDigits_of_isDigit h (Nat.zero_le _)]
  unfold readNatural
  split <;> simp_all

/-- A text that begins with no sign is read as digits. -/
theorem readInteger_plain {c : Char} (hplus : c ≠ '+') (hminus : c ≠ '-') (rest : List Char) :
    readInteger limit (c :: rest) =
      (readDigits 10 limit .tooLarge 0 (c :: rest)).map Int.ofNat := by
  unfold readInteger
  split <;> simp_all

theorem readInteger_toDigits {n : Nat} (h : n ≤ limit) :
    readInteger limit (Nat.toDigits 10 n) = .ok (n : Int) := by
  obtain ⟨c, rest, hcons⟩ := List.exists_cons_of_ne_nil (Nat.toDigits_ne_nil (n := n) (b := 10))
  have hdigit : c.isDigit = true :=
    Nat.isDigit_of_mem_toDigits (by decide) (by decide) (hcons ▸ List.mem_cons_self)
  have hplus : c ≠ '+' := by
    rintro rfl
    simp at hdigit
  have hminus : c ≠ '-' := by
    rintro rfl
    simp at hdigit
  rw [hcons, readInteger_plain hplus hminus, ← hcons, readDigits_toDigits h]
  rfl

theorem readInteger_minus {n : Nat} (h : n ≤ limit + 1) :
    readInteger limit ('-' :: Nat.toDigits 10 n) = .ok (-(n : Int)) := by
  obtain ⟨c, rest, hcons⟩ := List.exists_cons_of_ne_nil (Nat.toDigits_ne_nil (n := n) (b := 10))
  rw [hcons, readInteger, ← hcons, readDigits_toDigits h]
  · rfl
  · simp

/-- The decimal form of a number is a run of digits, with a minus sign before it for numbers
below zero. -/
theorem toList_repr_cases (n : Int) :
    (0 ≤ n ∧ n.repr.toList = Nat.toDigits 10 n.toNat) ∨
      (n < 0 ∧ n.repr.toList = '-' :: Nat.toDigits 10 (-n).toNat) := by
  rw [Int.repr_eq_if]
  by_cases h : 0 ≤ n
  · rw [if_pos h]
    exact .inl ⟨h, Nat.toList_repr⟩
  · rw [if_neg h, String.toList_append, Nat.toList_repr]
    exact .inr ⟨Int.lt_of_not_ge h, rfl⟩

/-- The decimal form of a number is read as the number. -/
theorem readInteger_repr {n : Int} (low : -(limit : Int) - 1 ≤ n) (high : n ≤ limit) :
    readInteger limit n.repr.toList = .ok n := by
  rcases toList_repr_cases n with ⟨hsign, hrepr⟩ | ⟨hsign, hrepr⟩
  · rw [hrepr, readInteger_toDigits (by omega)]
    congr 1
    omega
  · rw [hrepr, readInteger_minus (by omega)]
    congr 1
    omega

/-- The decimal form of a number has digits and the minus sign in it. -/
theorem isDigit_of_mem_repr {n : Int} {c : Char} (h : c ∈ n.repr.toList) (hminus : c ≠ '-') :
    c.isDigit = true := by
  have hdigit {m : Nat} (hc : c ∈ Nat.toDigits 10 m) : c.isDigit = true :=
    Nat.isDigit_of_mem_toDigits (by decide) (by decide) hc
  rcases toList_repr_cases n with ⟨-, hrepr⟩ | ⟨-, hrepr⟩
  · exact hdigit (hrepr ▸ h)
  · rw [hrepr] at h
    exact hdigit ((List.mem_cons.mp h).resolve_left hminus)

theorem toList_repr_ne_nil (n : Int) : n.repr.toList ≠ [] := by
  rcases toList_repr_cases n with ⟨-, hrepr⟩ | ⟨-, hrepr⟩
  · rw [hrepr]
    exact Nat.toDigits_ne_nil
  · rw [hrepr]
    exact List.cons_ne_nil _ _

/-- Different numbers have different decimal forms. -/
theorem repr_injective : Function.Injective Int.repr := by
  intro m n h
  -- A range that has both numbers in it, so each form is read as its number.
  have hm : readInteger (m.natAbs + n.natAbs) m.repr.toList = .ok m :=
    readInteger_repr (by omega) (by omega)
  have hn : readInteger (m.natAbs + n.natAbs) n.repr.toList = .ok n :=
    readInteger_repr (by omega) (by omega)
  rw [h, hn] at hm
  cases hm
  rfl

/-! ### White space around a number -/

theorem dropWhile_of_none {p : Char → Bool} {c : Char} (h : p c = false) (text : List Char) :
    (c :: text).dropWhile p = c :: text := List.dropWhile_cons_of_neg (by simp [h])

/-- Trimming takes white space off both ends. -/
theorem exists_trim (text : List Char) : ∃ before after : List Char,
    before.all isBlank = true ∧ after.all isBlank = true ∧ text = before ++ trim text ++ after := by
  refine ⟨text.takeWhile isBlank, ((trimStart text).reverse.takeWhile isBlank).reverse,
    List.all_takeWhile, ?_, ?_⟩
  · rw [List.all_reverse]
    exact List.all_takeWhile
  · rw [List.append_assoc, trim, trimEnd, ← List.reverse_append, List.takeWhile_append_dropWhile,
      List.reverse_reverse, trimStart, List.takeWhile_append_dropWhile]

/-- Trimming leaves what stands between white space, if it neither begins nor ends with
white space. -/
theorem trim_between {before core after : List Char} {first last : Char}
    (hbefore : before.all isBlank = true) (hafter : after.all isBlank = true)
    (hfirst : core.head? = some first) (hlast : core.getLast? = some last)
    (hcore : isBlank first = false ∧ isBlank last = false) :
    trim (before ++ core ++ after) = core := by
  obtain ⟨rest, rfl⟩ := List.head?_eq_some_iff.mp hfirst
  obtain ⟨front, hfront⟩ := List.getLast?_eq_some_iff.mp hlast
  have hstart : trimStart (before ++ (first :: rest) ++ after) = (first :: rest) ++ after := by
    rw [trimStart, List.append_assoc, List.dropWhile_append_of_pos (List.all_eq_true.mp hbefore),
      List.cons_append, dropWhile_of_none hcore.1]
  rw [trim, hstart, trimEnd, List.reverse_append, List.dropWhile_append_of_pos fun c hc =>
    List.all_eq_true.mp hafter c (List.mem_reverse.mp hc), hfront, List.reverse_concat,
    dropWhile_of_none hcore.2, ← List.reverse_concat, List.reverse_reverse]

/-- Trimming leaves what stands between white space, if there is none in it. -/
theorem trim_surrounded {before core after : List Char} (hbefore : before.all isBlank = true)
    (hafter : after.all isBlank = true) (hne : core ≠ [])
    (hcore : ∀ c ∈ core, isBlank c = false) : trim (before ++ core ++ after) = core :=
  trim_between hbefore hafter (List.head?_eq_some_head hne) (List.getLast?_eq_some_getLast hne)
    ⟨hcore _ (List.head_mem hne), hcore _ (List.getLast_mem hne)⟩

theorem isBlank_of_ascii {c : Char} (low : 0x20 < c.toNat) (high : c.toNat < 0x80) :
    isBlank c = false := by
  simp [isBlank, CodeRanges.holds, blankRanges]
  omega

theorem not_isBlank_of_isDigit {c : Char} (h : c.isDigit = true) : isBlank c = false := by
  have hbounds : 48 ≤ c.toNat ∧ c.toNat ≤ 57 := by
    simpa [Char.isDigit, UInt32.le_iff_toNat_le] using h
  exact isBlank_of_ascii (by omega) (by omega)

/-- Trimming leaves the decimal form of a number and nothing else. -/
theorem trim_repr {before after : List Char} (hbefore : before.all isBlank = true)
    (hafter : after.all isBlank = true) (n : Int) :
    trim (before ++ n.repr.toList ++ after) = n.repr.toList := by
  refine trim_surrounded hbefore hafter (toList_repr_ne_nil n) fun c hc => ?_
  by_cases hminus : c = '-'
  · rw [hminus]
    decide
  · exact not_isBlank_of_isDigit (isDigit_of_mem_repr hc hminus)

end CaseRunner.Text
