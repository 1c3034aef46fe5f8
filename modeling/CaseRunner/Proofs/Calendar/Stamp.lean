import CaseRunner.Proofs.Text.Numeral
import CaseRunner.Report.Artifact
import Mathlib.Algebra.Group.Nat.Defs
import Mathlib.Data.List.TakeWhile

/-!
# `CaseRunner.Proofs.Calendar.Stamp`: a stamp is read as what was written

A field of a stamp is written with zeros before it, so it has as many digits as reading takes for
it (`length_padded`), and reading stops behind it whatever follows (`readField_padded`). A year of
more than four digits is written with a sign, and behind a sign all digits are read
(`readYear_written`). From the fields:

* `readStamp_writeStamp`: what was written is read again, for every second of the calendar.
* `dates_round_trip`: so a date that was read can be written and read again, and two seconds never
  have the same stamp.
-/

set_option autoImplicit false

namespace CaseRunner.Calendar

open CaseRunner.Text

variable {n width : Nat} {c : Char}

/-! ### Numbers with zeros before them -/

theorem digitsValue_eq (digits : List Char) : digitsValue digits = Nat.ofDigitChars 10 digits 0 :=
  Nat.ofDigitChars_eq_foldl.symm

theorem isDigit_of_mem_padded (h : c ∈ padded width n) : c.isDigit = true := by
  rcases List.mem_append.mp h with hzero | hdigit
  · rw [List.eq_of_mem_replicate hzero]
    rfl
  · exact Nat.isDigit_of_mem_toDigits (by omega) (by omega) hdigit

theorem padded_ne_nil (width n : Nat) : padded width n ≠ [] := by
  simp [padded]

/-- A number that fits the width takes all of it. -/
theorem length_padded (hwidth : 0 < width) (h : n < 10 ^ width) :
    (padded width n).length = width := by
  have hfits := (Nat.length_toDigits_le_iff (by omega) hwidth).mpr h
  simp only [padded, List.length_append, List.length_replicate]
  omega

/-- Zeros before a number do not count. -/
theorem digitsValue_padded (width n : Nat) : digitsValue (padded width n) = n := by
  rw [digitsValue_eq, padded, Nat.ofDigitChars_append, Nat.ofDigitChars_replicate_zero, Nat.mul_zero,
    Nat.ofDigitChars_ten_toDigits]

theorem readDigitRun_padded (width n : Nat) (rest : List Char) :
    readDigitRun (padded width n) rest = some (n, rest) := by
  simp [readDigitRun, padded_ne_nil, digitsValue_padded]

theorem takeWhile_padded (width n : Nat) :
    (padded width n).takeWhile isDigit = padded width n :=
  List.takeWhile_eq_self_iff.mpr fun _ hc => isDigit_of_mem_padded hc

theorem dropWhile_padded (width n : Nat) : (padded width n).dropWhile isDigit = [] :=
  List.dropWhile_eq_nil_iff.mpr fun _ hc => isDigit_of_mem_padded hc

/-- There is no white space before a number. -/
theorem trimStart_padded (width n : Nat) (rest : List Char) :
    trimStart (padded width n ++ rest) = padded width n ++ rest := by
  obtain ⟨c, digits, hcons⟩ := List.exists_cons_of_ne_nil (padded_ne_nil width n)
  have hdigit : c.isDigit = true := isDigit_of_mem_padded (hcons ▸ List.mem_cons_self)
  rw [hcons, List.cons_append, trimStart, dropWhile_of_none (not_isBlank_of_isDigit hdigit)]

/-! ### The fields -/

/-- A number that fills its width is read, whatever follows. -/
theorem readUpTo_padded (hwidth : 0 < width) (h : n < 10 ^ width) (rest : List Char) :
    readUpTo width (padded width n ++ rest) = some (n, rest) := by
  have hlength := length_padded hwidth h
  -- The digits that may be taken are exactly those that were written.
  have htake : ((padded width n ++ rest).take width).takeWhile isDigit = padded width n := by
    rw [List.take_left' hlength, takeWhile_padded]
  show readDigitRun (((padded width n ++ rest).take width).takeWhile isDigit)
    ((padded width n ++ rest).drop _) = _
  rw [htake, List.drop_left, readDigitRun_padded]

theorem readField_padded (h : n < 100) (rest : List Char) :
    readField (padded 2 n ++ rest) = some (n, rest) := by
  rw [readField, trimStart_padded, readUpTo_padded (by omega) (by omega)]

theorem readAll_padded (width n : Nat) : readAll (padded width n) = some (n, []) := by
  rw [readAll, takeWhile_padded, dropWhile_padded, readDigitRun_padded]

/-- A text that begins with no sign is read as a year of up to four digits. -/
theorem readYear_unsigned (rest : List Char) (hplus : c ≠ '+') (hminus : c ≠ '-')
    (hblank : isBlank c = false) : readYear (c :: rest) =
      (readUpTo 4 (c :: rest)).map fun (n, rest) => (Int.ofNat n, rest) := by
  rw [readYear, trimStart, dropWhile_of_none hblank]
  split <;> simp_all

/-- A year is read with all its digits, and with its sign. -/
theorem readYear_written (year : Int) : readYear (writtenYear year) = some (year, []) := by
  unfold writtenYear
  split
  · rename_i hshort
    -- Without a sign there are four digits, no more and no less.
    have hread : readUpTo 4 (padded 4 year.toNat ++ []) = some (year.toNat, []) :=
      readUpTo_padded (by omega) (by omega) []
    obtain ⟨c, digits, hcons⟩ := List.exists_cons_of_ne_nil (padded_ne_nil 4 year.toNat)
    have hdigit : c.isDigit = true := isDigit_of_mem_padded (hcons ▸ List.mem_cons_self)
    rw [List.append_nil, hcons] at hread
    rw [hcons, readYear_unsigned digits _ _ (not_isBlank_of_isDigit hdigit), hread]
    · simp [Int.toNat_of_nonneg hshort.1]
    · rintro rfl
      simp at hdigit
    · rintro rfl
      simp at hdigit
  · split
    · rename_i hnegative
      show (readAll (padded 4 year.natAbs)).map _ = _
      rw [readAll_padded]
      simp only [Option.map_some, Option.some.injEq, Prod.mk.injEq, and_true, Int.ofNat_eq_natCast]
      omega
    · rename_i hlong hpositive
      show (readAll (padded 4 year.natAbs)).map _ = _
      rw [readAll_padded]
      simp only [Option.map_some, Option.some.injEq, Prod.mk.injEq, and_true, Int.ofNat_eq_natCast]
      omega

/-! ### The whole stamp -/

theorem daysInMonth_le (year : Int) (month : Nat) : daysInMonth year month ≤ 31 := by
  unfold daysInMonth
  split <;> (try split) <;> omega

/-- A month that has days is one of twelve. -/
theorem month_le_of_daysInMonth {year : Int} {month : Nat} (h : 1 ≤ daysInMonth year month) :
    month ≤ 12 := by
  unfold daysInMonth at h
  split at h <;> omega

/-- What was written is read again. -/
theorem readStamp_writeStamp (t : DateTime) : readStamp (writeStamp t) = some t := by
  obtain ⟨-, -, hday, hlast, hhour, hminute, hsecond⟩ := t.valid
  have hdays := daysInMonth_le t.year t.month
  have hmonth := month_le_of_daysInMonth (Nat.le_trans hday hlast)
  -- One space stands before the day, and reading skips it.
  have hspace (text : List Char) : trimStart (' ' :: text) = trimStart text := rfl
  have hmark (mark : Char) (text : List Char) : readMark mark (mark :: text) = some text := by
    simp [readMark]
  have hyear := readYear_written t.year
  simp only [readStamp, writeStamp, List.append_assoc, List.cons_append]
  rw [readField_padded (by omega)]
  simp only [Option.bind_eq_bind, Option.bind_some, hmark]
  rw [readField_padded (by omega)]
  simp only [Option.bind_some, hmark]
  rw [readField_padded (by omega)]
  simp only [Option.bind_some, hspace]
  rw [trimStart_padded, readField_padded (by omega)]
  simp only [Option.bind_some, hmark]
  rw [readField_padded (by omega)]
  simp only [Option.bind_some, hmark, hyear, List.isEmpty_nil, if_true]
  exact t.ofFields?_fields

end CaseRunner.Calendar

namespace CaseRunner.Report

open CaseRunner.Calendar (DateTime readStamp_writeStamp)

theorem readDate_stamp (t : DateTime) : readDate t.stamp = .ok t := by
  rw [readDate, DateTime.stamp, String.toList_ofList, readStamp_writeStamp]

/-- Every second of the calendar, leap seconds and years of any sign and length included, is read
again from its stamp. So a date that was read from any text is read again from the stamp that is
written for it, and different seconds have different stamps. -/
theorem dates_round_trip :
    (∀ t : DateTime, readDate t.stamp = .ok t) ∧
      (∀ (text : String) (t : DateTime), readDate text = .ok t → readDate t.stamp = .ok t) ∧
      ∀ t t' : DateTime, t.stamp = t'.stamp → t = t' := by
  refine ⟨readDate_stamp, fun _ t _ => readDate_stamp t, fun t t' h => ?_⟩
  have hread := readDate_stamp t
  rw [h, readDate_stamp t'] at hread
  exact (Except.ok.inj hread).symm

/-- A leap second on the last day of a February, in a year before the year 0. -/
def leapSecond : DateTime := ⟨-4, 2, 29, 23, 59, 60, by decide⟩

/-- The leap second is read from a text that spares the zeros, and again from its stamp. -/
theorem dates_round_trip_leapSecond :
    readDate " 23:59:60 29.2.-4" = .ok leapSecond ∧
      leapSecond.stamp = "23:59:60 29.02.-0004" ∧ readDate leapSecond.stamp = .ok leapSecond := by
  have hread : readDate " 23:59:60 29.2.-4" = .ok leapSecond := by decide +kernel
  exact ⟨hread, by decide +kernel, dates_round_trip.2.1 _ _ hread⟩

end CaseRunner.Report
