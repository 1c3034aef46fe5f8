import CaseRunner.Config.Duration
import CaseRunner.Proofs.Text.LowerCase
import CaseRunner.Proofs.Text.Numeral
import CaseRunner.Proofs.Text.Utf8
import Mathlib.Algebra.Group.Nat.Defs
import Mathlib.Data.List.Basic
import Mathlib.Data.List.TakeWhile

/-!
# `CaseRunner.Proofs.Config.Duration`: which texts are durations

`DurationText` is a duration as it can be written: a number in digits and the letters of a unit,
with white space before, between and after them. `Amounts` says which span so many of a unit are,
if the number and its seconds fit 64 bits.

* `DurationText.readDuration`: what is written so is read, with its number and its unit, and is
  refused only if it does not fit.
* `exists_durationText`: nothing else is read.
* `readDuration_accepts`: so the texts that are read, the spans they are read as and the texts that
  are refused are known for all texts.
-/

set_option autoImplicit false

namespace CaseRunner.Config

open CaseRunner.Text

/-! ### Units -/

/-- The letters name a unit, each letter small or capital. -/
inductive UnitLetters (letters : List Char) : DurationUnit → Prop
  | milliseconds (h : letters.map Char.toLower = ['m', 's']) : UnitLetters letters .milliseconds
  | seconds (h : letters.map Char.toLower = ['s']) : UnitLetters letters (.seconds 1)
  | minutes (h : letters.map Char.toLower = ['m']) : UnitLetters letters (.seconds 60)
  | hours (h : letters.map Char.toLower = ['h']) : UnitLetters letters (.seconds 3600)

/-- So many of a unit are a span of time: the number fits 64 bits, and so do the seconds. -/
inductive Amounts (n : Nat) : DurationUnit → Millis → Prop
  | milliseconds (h : n < 2 ^ 64) : Amounts n .milliseconds n
  | seconds {each : Nat} (h : n < 2 ^ 64) (hseconds : n * each < 2 ^ 64) :
      Amounts n (.seconds each) (n * each * 1000)

theorem Amounts.lt {n : Nat} {unit : DurationUnit} {d : Millis} (h : Amounts n unit d) :
    n < 2 ^ 64 := by
  cases h <;> assumption

/-- The words that are units. -/
theorem durationUnit?_eq_some_iff {word : List Char} {unit : DurationUnit} :
    durationUnit? (String.ofList word) = some unit ↔
      word = ['m', 's'] ∧ unit = .milliseconds ∨ word = ['s'] ∧ unit = .seconds 1 ∨
        word = ['m'] ∧ unit = .seconds 60 ∨ word = ['h'] ∧ unit = .seconds 3600 := by
  have hword (s : String) : String.ofList word = s ↔ word = s.toList := by
    rw [← String.toList_inj, String.toList_ofList]
  unfold durationUnit?
  split <;> simp_all [eq_comm]

theorem durationUnit?_lower {letters : List Char} {unit : DurationUnit} :
    durationUnit? (String.ofList (lower letters)) = some unit ↔ UnitLetters letters unit := by
  rw [durationUnit?_eq_some_iff, lower_eq_iff (by decide), lower_eq_iff (by decide),
    lower_eq_iff (by decide), lower_eq_iff (by decide)]
  constructor
  · rintro (⟨h, rfl⟩ | ⟨h, rfl⟩ | ⟨h, rfl⟩ | ⟨h, rfl⟩)
    · exact .milliseconds h
    · exact .seconds h
    · exact .minutes h
    · exact .hours h
  · intro h
    cases h <;> simp_all

/-- The letters of a unit are neither white space nor digits. -/
theorem UnitLetters.not_aside {letters : List Char} {unit : DurationUnit}
    (h : UnitLetters letters unit) :
    letters ≠ [] ∧ ∀ c ∈ letters, isBlank c = false ∧ isDurationDigit c = false := by
  have hword : letters ≠ [] ∧ ∀ c ∈ letters, c.toLower ∈ ['m', 's', 'h'] := by
    cases h with
    | milliseconds h | seconds h | minutes h | hours h =>
        refine ⟨?_, fun c hc => ?_⟩
        · rintro rfl
          cases h
        · have hmem := List.mem_map_of_mem (f := Char.toLower) hc
          rw [h] at hmem
          grind
  refine ⟨hword.1, fun c hc => ?_⟩
  have hvisible : ∀ d ∈ ['m', 's', 'h'], isBlank d = false ∧ isDurationDigit d = false := by
    rw [← List.forall_iff_forall_mem]
    decide
  -- A letter that is not small is a capital one.
  rcases toLower_cases c with hsame | ⟨hlow, hhigh⟩
  · exact hvisible c (hsame ▸ hword.2 c hc)
  · refine ⟨isBlank_of_ascii (by omega) (by omega), ?_⟩
    have hnine : ¬c ≤ '9' := fun hle => by
      have : c.toNat ≤ 57 := UInt32.le_iff_toNat_le.mp hle
      omega
    simp [isDurationDigit, hnine]

theorem durationOf_eq_ok_iff {text : List Char} {n : Nat} {unit : DurationUnit} {d : Millis}
    (hn : n ≤ maxWord) : durationOf text n unit = .ok d ↔ Amounts n unit d := by
  have hfits (k : Nat) : k ≤ maxWord ↔ k < 2 ^ 64 := by
    show k ≤ 2 ^ 64 - 1 ↔ k < 2 ^ 64
    omega
  rw [hfits] at hn
  cases unit with
  | milliseconds =>
      constructor
      · intro h
        cases h
        exact .milliseconds hn
      · intro h
        cases h
        rfl
  | seconds each =>
      simp only [durationOf, hfits]
      split
      · rename_i hseconds
        constructor
        · intro h
          cases h
          exact .seconds hn hseconds
        · intro h
          cases h
          rfl
      · rename_i hexcess
        constructor
        · intro h
          cases h
        · intro h
          cases h with
          | seconds _ hseconds => exact absurd hseconds hexcess

/-! ### Durations as they are written -/

/-- A duration as it can be written. -/
structure DurationText where
  /-- The white space before it. -/
  before : List Char
  /-- The digits of the number. -/
  digits : List Char
  /-- The white space between the number and the unit. -/
  between : List Char
  /-- The letters of the unit. -/
  letters : List Char
  /-- The white space after it. -/
  after : List Char
  /-- The unit. -/
  unit : DurationUnit
  /-- There is at least one digit. -/
  digits_ne : digits ≠ []
  /-- The number has digits only. -/
  isDigit : ∀ c ∈ digits, c.isDigit = true
  /-- What stands around the number and the unit is white space. -/
  blank : before.all isBlank = true ∧ between.all isBlank = true ∧ after.all isBlank = true
  /-- The letters name the unit. -/
  named : UnitLetters letters unit

namespace DurationText

/-- The number without white space around it. -/
def core (w : DurationText) : List Char := w.digits ++ w.between ++ w.letters

/-- The whole text. -/
def text (w : DurationText) : List Char := w.before ++ w.core ++ w.after

/-- The number that the digits stand for. -/
def number (w : DurationText) : Nat := Nat.ofDigitChars 10 w.digits 0

theorem trim_text (w : DurationText) : trim w.text = w.core := by
  obtain ⟨hne, hletters⟩ := w.named.not_aside
  have hfirst : w.core.head? = some (w.digits.head w.digits_ne) := by
    rw [core, List.append_assoc, List.head?_append, List.head?_eq_some_head w.digits_ne,
      Option.some_or]
  have hlast : w.core.getLast? = some (w.letters.getLast hne) := by
    rw [core, List.getLast?_append, List.getLast?_eq_some_getLast hne, Option.some_or]
  exact trim_between w.blank.1 w.blank.2.2 hfirst hlast
    ⟨not_isBlank_of_isDigit (w.isDigit _ (List.head_mem _)), (hletters _ (List.getLast_mem hne)).1⟩

theorem trim_rest (w : DurationText) : trim (w.between ++ w.letters) = w.letters := by
  obtain ⟨hne, hletters⟩ := w.named.not_aside
  have htrim : trim (w.between ++ w.letters ++ []) = w.letters :=
    trim_surrounded w.blank.2.1 rfl hne fun c hc => (hletters c hc).1
  rwa [List.append_nil] at htrim

/-- The number ends where the white space or the unit begins. -/
theorem rest_not_digit (w : DurationText) {c : Char} (hc : c ∈ w.between ++ w.letters) :
    isDurationDigit c = false := by
  rcases List.mem_append.mp hc with hblank | hletter
  · have hc := List.all_eq_true.mp w.blank.2.1 c hblank
    rw [← Bool.not_eq_true]
    intro hdigit
    rw [not_isBlank_of_isDigit hdigit] at hc
    cases hc
  · exact (w.named.not_aside.2 c hletter).2

theorem takeWhile_core (w : DurationText) : w.core.takeWhile isDurationDigit = w.digits := by
  obtain ⟨c, rest, hrest⟩ := List.exists_cons_of_ne_nil
    (List.append_ne_nil_of_right_ne_nil w.between w.named.not_aside.1)
  have hc := w.rest_not_digit (hrest ▸ List.mem_cons_self : c ∈ w.between ++ w.letters)
  have hdigits : ∀ d ∈ w.digits, isDurationDigit d = true := w.isDigit
  rw [core, List.append_assoc, hrest, List.takeWhile_append_of_pos hdigits,
    List.takeWhile_cons_of_neg (by simp [hc]), List.append_nil]

theorem dropWhile_core (w : DurationText) :
    w.core.dropWhile isDurationDigit = w.between ++ w.letters := by
  have hsplit := List.takeWhile_append_dropWhile (p := isDurationDigit) (l := w.core)
  rw [takeWhile_core] at hsplit
  exact List.append_cancel_left (hsplit.trans (List.append_assoc _ _ _))

/-- What is written as a duration is read with its number and its unit, if the number fits. -/
theorem readDuration {s : String} (w : DurationText) (h : s.toList = w.text) :
    Config.readDuration s = if w.number ≤ maxWord then durationOf w.core w.number w.unit
      else .error (.badNumber (String.ofList w.digits) .tooLarge) := by
  have hne := w.named.not_aside.1
  have hcore : w.core.isEmpty = false := by simp [core, w.digits_ne]
  have hrest : (w.between ++ w.letters).isEmpty = false := by simp [hne]
  rw [Config.readDuration, h, trim_text, readTrimmedDuration, takeWhile_core, dropWhile_core,
    trim_rest]
  simp only [hcore, hrest, Bool.false_eq_true, if_false, durationUnit?_lower.mpr w.named,
    readNatural_of_isDigit w.digits_ne w.isDigit, number]
  by_cases hfits : Nat.ofDigitChars 10 w.digits 0 ≤ maxWord
  · simp only [hfits, if_true]
  · simp only [hfits, if_false]

theorem readDuration_ok_iff {s : String} {d : Millis} (w : DurationText) (h : s.toList = w.text) :
    Config.readDuration s = .ok d ↔ Amounts w.number w.unit d := by
  rw [w.readDuration h]
  split
  · rename_i hfits
    exact durationOf_eq_ok_iff hfits
  · rename_i hexcess
    constructor
    · intro h
      cases h
    · intro h
      exact absurd (Nat.le_sub_one_of_lt h.lt) hexcess

end DurationText

/-- What is read is written as a duration. -/
theorem exists_durationText {s : String} {d : Millis} (h : readDuration s = .ok d) :
    ∃ w : DurationText, s.toList = w.text := by
  obtain ⟨before, after, hbefore, hafter, htrim⟩ := exists_trim s.toList
  rw [readDuration] at h
  generalize trim s.toList = text at h htrim
  obtain ⟨between, space, hbetween, hspace, hsuffix⟩ :=
    exists_trim (text.dropWhile isDurationDigit)
  unfold readTrimmedDuration at h
  dsimp only at h
  split at h
  · cases h
  · split at h
    · cases h
    · split at h
      · cases h
      · rename_i n hread
        split at h
        · cases h
        · rename_i unit hunit
          refine ⟨⟨before, text.takeWhile isDurationDigit, between,
            trim (text.dropWhile isDurationDigit), space ++ after, unit, ?_,
            fun c hc => (List.all_eq_true.mp List.all_takeWhile c hc), ⟨hbefore, hbetween, ?_⟩,
            durationUnit?_lower.mp hunit⟩, ?_⟩
          · intro hnil
            rw [hnil] at hread
            cases hread
          · rw [List.all_append, hspace, hafter]
            rfl
          -- White space after the unit was not trimmed away before, so there is none; it does
          -- not matter here to which side it is counted.
          · calc s.toList
                = before ++ (text.takeWhile isDurationDigit ++ text.dropWhile isDurationDigit)
                    ++ after := by rw [htrim, List.takeWhile_append_dropWhile]
              _ = before ++ (text.takeWhile isDurationDigit ++ (between ++
                    trim (text.dropWhile isDurationDigit) ++ space)) ++ after := by rw [← hsuffix]
              _ = _ := by simp [DurationText.text, DurationText.core]

/-- Digits are as many bytes as characters, so a number that is counted off in characters ends at
the same place in bytes. -/
theorem encode_cut (text : List Char) :
    (encode text).take (text.takeWhile isDurationDigit).length =
        encode (text.takeWhile isDurationDigit) ∧
      (encode text).drop (text.takeWhile isDurationDigit).length =
        encode (text.dropWhile isDurationDigit) := by
  have hlength : (encode (text.takeWhile isDurationDigit)).length =
      (text.takeWhile isDurationDigit).length := by
    rw [encode_of_ascii, List.length_map]
    intro c hc
    have hdigit : isDurationDigit c = true := List.all_eq_true.mp List.all_takeWhile c hc
    have hnine : c ≤ '9' := by
      simp only [isDurationDigit, Bool.and_eq_true, decide_eq_true_eq] at hdigit
      exact hdigit.2
    have : c.toNat ≤ 57 := UInt32.le_iff_toNat_le.mp hnine
    omega
  have hsplit : encode text =
      encode (text.takeWhile isDurationDigit) ++ encode (text.dropWhile isDurationDigit) := by
    rw [← encode_append, List.takeWhile_append_dropWhile]
  exact ⟨by rw [hsplit, List.take_left' hlength], by rw [hsplit, List.drop_left' hlength]⟩

/-- A text is read as a span of time if and only if it is a number and a unit, with white space
around them or not, and the number and its seconds fit; then it is that many of the unit. Every
other text is refused. The number ends at the same place in characters as in bytes. -/
theorem readDuration_accepts (s : String) :
    (∀ d, readDuration s = .ok d ↔
      ∃ w : DurationText, s.toList = w.text ∧ Amounts w.number w.unit d) ∧
    ((∃ fault, readDuration s = .error fault) ↔
      ¬∃ (w : DurationText) (d : Millis), s.toList = w.text ∧ Amounts w.number w.unit d) ∧
    (encode (trim s.toList)).take ((trim s.toList).takeWhile isDurationDigit).length =
        encode ((trim s.toList).takeWhile isDurationDigit) ∧
      (encode (trim s.toList)).drop ((trim s.toList).takeWhile isDurationDigit).length =
        encode ((trim s.toList).dropWhile isDurationDigit) := by
  have haccepts (d : Millis) : readDuration s = .ok d ↔
      ∃ w : DurationText, s.toList = w.text ∧ Amounts w.number w.unit d := by
    constructor
    · intro h
      obtain ⟨w, hw⟩ := exists_durationText h
      exact ⟨w, hw, (w.readDuration_ok_iff hw).mp h⟩
    · rintro ⟨w, hw, hamounts⟩
      exact (w.readDuration_ok_iff hw).mpr hamounts
  refine ⟨haccepts, ?_, encode_cut _⟩
  constructor
  · rintro ⟨fault, hfault⟩ ⟨w, d, hw, hamounts⟩
    rw [(haccepts d).mpr ⟨w, hw, hamounts⟩] at hfault
    cases hfault
  · intro hnone
    cases hread : readDuration s with
    | error fault => exact ⟨fault, rfl⟩
    | ok d =>
        obtain ⟨w, hw, hamounts⟩ := (haccepts d).mp hread
        exact absurd ⟨w, d, hw, hamounts⟩ hnone

/-- Zeros in front, capital letters and white space beyond the blank do not count. -/
example : readDuration " 007 Ms\u3000" = .ok 7 := by decide

/-- The number fits, its seconds do not. -/
example : readDuration "18446744073709551615m" = .error (.tooLarge "18446744073709551615m") := by
  decide

end CaseRunner.Config
