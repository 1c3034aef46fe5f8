/-!
# `CaseRunner.Calendar.DateTime`: seconds of the Gregorian calendar

A date-time is a day of the proleptic Gregorian calendar and a second of that day, with
no time zone. A leap second, the sixtieth of its minute, is admitted in any minute.
Every value is one that exists: the bounds on the fields are part of the type.

* `ofFields?_isSome_iff`: six numbers make a date-time exactly if they are in bounds.
-/

set_option autoImplicit false

namespace CaseRunner.Calendar

/-- Whether the year has a 29th of February. -/
def isLeapYear (year : Int) : Bool :=
  (year % 4 == 0 && year % 100 != 0) || year % 400 == 0

/-- The number of days of a month, counted from one; none outside one to twelve. -/
def daysInMonth (year : Int) (month : Nat) : Nat :=
  match month with
  | 1 | 3 | 5 | 7 | 8 | 10 | 12 => 31
  | 4 | 6 | 9 | 11 => 30
  | 2 => if isLeapYear year then 29 else 28
  | _ => 0

/-- The first year of the calendar. -/
def firstYear : Int := -262143

/-- The last year of the calendar. -/
def lastYear : Int := 262142

/-- Whether six numbers are the fields of an existing second. -/
def Exists (year : Int) (month day hour minute second : Nat) : Prop :=
  firstYear ≤ year ∧ year ≤ lastYear ∧ 1 ≤ day ∧ day ≤ daysInMonth year month ∧
    hour ≤ 23 ∧ minute ≤ 59 ∧ second ≤ 60

instance (year : Int) (month day hour minute second : Nat) :
    Decidable (Exists year month day hour minute second) := by
  unfold Exists
  infer_instance

/-- A second of the calendar; second 60 is a leap second. -/
structure DateTime where
  /-- The year, with a year 0 before the year 1. -/
  year : Int
  /-- The month, from 1. -/
  month : Nat
  /-- The day of the month, from 1. -/
  day : Nat
  /-- The hour, up to 23. -/
  hour : Nat
  /-- The minute, up to 59. -/
  minute : Nat
  /-- The second, up to 60. -/
  second : Nat
  /-- The second exists. -/
  valid : Exists year month day hour minute second
  deriving DecidableEq

namespace DateTime

/-- The date-time of six fields, if there is one. -/
def ofFields? (year : Int) (month day hour minute second : Nat) : Option DateTime :=
  if h : Exists year month day hour minute second then
    some ⟨year, month, day, hour, minute, second, h⟩
  else
    none

/-- Six numbers make a date-time exactly if they are in bounds. -/
theorem ofFields?_isSome_iff (year : Int) (month day hour minute second : Nat) :
    (ofFields? year month day hour minute second).isSome = true ↔
      Exists year month day hour minute second := by
  unfold ofFields?
  split <;> simp_all

/-- The fields of a date-time make that date-time. -/
theorem ofFields?_fields (t : DateTime) :
    ofFields? t.year t.month t.day t.hour t.minute t.second = some t := by
  simp [ofFields?, t.valid]

end DateTime

/-- A number in decimal digits, with zeros before it up to `width` digits. -/
def padded (width n : Nat) : List Char :=
  let digits := Nat.toDigits 10 n
  List.replicate (width - digits.length) '0' ++ digits

/-- A year in at least four digits, with a sign if it is negative or takes more. -/
def writtenYear (year : Int) : List Char :=
  if 0 ≤ year ∧ year ≤ 9999 then padded 4 year.toNat
  else if year < 0 then '-' :: padded 4 year.natAbs
  else '+' :: padded 4 year.natAbs

/-- The usual notation, from the year down to the second. -/
def DateTime.display (t : DateTime) : String :=
  String.ofList (writtenYear t.year ++ '-' :: padded 2 t.month ++ '-' :: padded 2 t.day
    ++ ' ' :: padded 2 t.hour ++ ':' :: padded 2 t.minute ++ ':' :: padded 2 t.second)

end CaseRunner.Calendar
