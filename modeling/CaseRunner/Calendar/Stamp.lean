import CaseRunner.Calendar.DateTime
import CaseRunner.Text.Blank

/-!
# `CaseRunner.Calendar.Stamp`: the time first, then the date

A stamp is a date-time as in `14:05:09 01.02.2020`. Writing always fills the fields with
zeros. Reading takes the same fields with fewer digits, allows white space before every
number, and needs none between time and date.
-/

set_option autoImplicit false

namespace CaseRunner.Calendar

open CaseRunner.Text

/-- Whether the character is a decimal digit. -/
def isDigit (c : Char) : Bool := '0' ≤ c && c ≤ '9'

/-- The number that a run of digits stands for. -/
def digitsValue (digits : List Char) : Nat :=
  digits.foldl (fun value c => 10 * value + (c.toNat - '0'.toNat)) 0

/-- Reads a number of at least one digit from the front of a text. -/
def readDigitRun (digits rest : List Char) : Option (Nat × List Char) :=
  if digits.isEmpty then none else some (digitsValue digits, rest)

/-- Reads a number of one to `most` digits. -/
def readUpTo (most : Nat) (text : List Char) : Option (Nat × List Char) :=
  let digits := (text.take most).takeWhile isDigit
  readDigitRun digits (text.drop digits.length)

/-- Reads a number of any number of digits. -/
def readAll (text : List Char) : Option (Nat × List Char) :=
  readDigitRun (text.takeWhile isDigit) (text.dropWhile isDigit)

/-- Reads a field of one or two digits, with white space before it. -/
def readField (text : List Char) : Option (Nat × List Char) := readUpTo 2 (trimStart text)

/-- Reads a year: up to four digits, or a sign and any number of them. -/
def readYear (text : List Char) : Option (Int × List Char) :=
  match trimStart text with
  | '-' :: rest => (readAll rest).map fun (n, rest) => (-(Int.ofNat n), rest)
  | '+' :: rest => (readAll rest).map fun (n, rest) => (Int.ofNat n, rest)
  | text => (readUpTo 4 text).map fun (n, rest) => (Int.ofNat n, rest)

/-- Reads one given character. -/
def readMark (mark : Char) : List Char → Option (List Char)
  | [] => none
  | c :: rest => if c = mark then some rest else none

/-- Reads a stamp that is the whole text. -/
def readStamp (text : List Char) : Option DateTime := do
  let (hour, text) ← readField text
  let text ← readMark ':' text
  let (minute, text) ← readField text
  let text ← readMark ':' text
  let (second, text) ← readField text
  let (day, text) ← readField (trimStart text)
  let text ← readMark '.' text
  let (month, text) ← readField text
  let text ← readMark '.' text
  let (year, text) ← readYear text
  if text.isEmpty then DateTime.ofFields? year month day hour minute second else none

/-- The stamp of a date-time. -/
def writeStamp (t : DateTime) : List Char :=
  padded 2 t.hour ++ ':' :: padded 2 t.minute ++ ':' :: padded 2 t.second
    ++ ' ' :: padded 2 t.day ++ '.' :: padded 2 t.month ++ '.' :: writtenYear t.year

/-- The stamp of a date-time, as a string. -/
def DateTime.stamp (t : DateTime) : String := String.ofList (writeStamp t)

end CaseRunner.Calendar
