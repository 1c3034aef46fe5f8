import CaseRunner.Calendar.DateTime
import CaseRunner.Text.Numeral
import CaseRunner.Toml.Value

/-!
# `CaseRunner.Toml.Scalar`: values without quotation marks

A value that begins with no mark of its own is a truth value, a number, a date or a time.
Which one it is, if any, is decided on all of its characters at once (`scalar?`). Digits
may be set apart by single underscores, and only numbers to the base ten have a sign or a
fraction; they have no zero in front.
-/

set_option autoImplicit false

namespace CaseRunner.Toml

open CaseRunner.Text (Decimal Fraction digitValue)

/-- The value of digits with single underscores between them, after digits with the value
`value` if `afterDigit`. -/
def groupedDigits (radix value : Nat) (afterDigit : Bool) : List Char → Option Nat
  | [] => if afterDigit then some value else none
  | '_' :: rest => if afterDigit then groupedDigits radix value false rest else none
  | c :: rest => do
    let digit ← digitValue radix c
    groupedDigits radix (value * radix + digit) true rest

/-- The value of digits to a base. -/
def digits? (radix : Nat) (text : List Char) : Option Nat := groupedDigits radix 0 false text

/-- The value of digits to the base ten without a zero in front. -/
def natural? (text : List Char) : Option Nat :=
  match text with
  | '0' :: _ :: _ => none
  | _ => digits? 10 text

/-- Whether a number begins with a minus, and the number after its sign. -/
def splitSign : List Char → Bool × List Char
  | '+' :: rest => (false, rest)
  | '-' :: rest => (true, rest)
  | text => (false, text)

/-- The number with a sign. -/
def signed (negative : Bool) (n : Nat) : Int := if negative then -(n : Int) else n

/-- A whole number. -/
def integer? (text : List Char) : Option Int :=
  match text with
  | '0' :: 'x' :: rest => (digits? 16 rest).map Int.ofNat
  | '0' :: 'o' :: rest => (digits? 8 rest).map Int.ofNat
  | '0' :: 'b' :: rest => (digits? 2 rest).map Int.ofNat
  | _ =>
    let (negative, rest) := splitSign text
    (natural? rest).map (signed negative)

/-- The power of ten after the mark of an exponent; zero if there is no mark. -/
def exponent? : List Char → Option Int
  | [] => some 0
  | _ :: text =>
    let (negative, rest) := splitSign text
    (digits? 10 rest).map (signed negative)

/-- A number with a point, an exponent or both, after its sign. -/
def decimal? (text : List Char) : Option Decimal :=
  let mantissa := text.takeWhile fun c => c ≠ 'e' && c ≠ 'E'
  let power := text.drop mantissa.length
  let whole := mantissa.takeWhile (· ≠ '.')
  match mantissa.drop whole.length, power with
  | [], [] => none
  | [], _ => do return ⟨← natural? whole, ← exponent? power⟩
  | _ :: places, _ => do
    let _ ← natural? whole
    let _ ← digits? 10 places
    let count := (places.filter (· ≠ '_')).length
    return ⟨← digits? 10 (whole ++ places), (← exponent? power) - count⟩

/-- A number with a fraction. -/
def fraction? (text : List Char) : Option Fraction :=
  let (negative, rest) := splitSign text
  if rest = "inf".toList then some (.infinite negative)
  else if rest = "nan".toList then some .undefined
  else (decimal? rest).map (.finite negative)

/-- Reads a number of exactly `count` digits. -/
def fixed? (count : Nat) (text : List Char) : Option (Nat × List Char) :=
  let digits := text.take count
  if digits.length = count ∧ digits.all Char.isDigit then
    (digits? 10 digits).map fun n => (n, text.drop count)
  else none

/-- Reads a date, and leaves what follows it. -/
def date? (text : List Char) : Option (List Char) := do
  let (year, rest) ← fixed? 4 text
  let '-' :: rest := rest | none
  let (month, rest) ← fixed? 2 rest
  let '-' :: rest := rest | none
  let (day, rest) ← fixed? 2 rest
  if 1 ≤ day ∧ day ≤ Calendar.daysInMonth year month then some rest else none

/-- Reads a fraction of a second if there is one, and leaves what follows it. -/
def secondFraction? : List Char → Option (List Char)
  | '.' :: rest =>
    let digits := rest.takeWhile Char.isDigit
    if digits.isEmpty then none else some (rest.drop digits.length)
  | text => some text

/-- Reads a time of day, with seconds or without, and leaves what follows it. -/
def time? (text : List Char) : Option (List Char) := do
  let (hour, rest) ← fixed? 2 text
  let ':' :: rest := rest | none
  let (minute, rest) ← fixed? 2 rest
  if 23 < hour ∨ 59 < minute then none
  match rest with
  | ':' :: rest => do
    let (second, rest) ← fixed? 2 rest
    if 60 < second then none else secondFraction? rest
  | _ => return rest

/-- Whether the text is a distance from universal time. -/
def isOffset (text : List Char) : Bool :=
  match text with
  | ['z'] => true
  | ['Z'] => true
  | sign :: a :: b :: ':' :: rest =>
    (sign = '+' || sign = '-') && (time? (a :: b :: ':' :: rest) = some []) && rest.length = 2
  | _ => false

/-- Whether the text may stand after a date: nothing, or a time of day with or without a
distance from universal time. -/
def isAfterDate (text : List Char) : Bool :=
  match text with
  | [] => true
  | mark :: rest =>
    (mark = 'T' || mark = 't' || mark = ' ') &&
      ((time? rest).any fun rest => rest.isEmpty || isOffset rest)

/-- Whether the text is a date, a time of day, or both. -/
def isMoment (text : List Char) : Bool :=
  (date? text).any isAfterDate || time? text = some []

/-- The value of a text without quotation marks. -/
def scalar? (text : List Char) : Option Value :=
  if text = "true".toList then some (.boolean true)
  else if text = "false".toList then some (.boolean false)
  else if isMoment text then some .moment
  else
    match integer? text, fraction? text with
    | some n, _ => some (.integer n)
    | none, some x => some (.fraction x)
    | none, none => none

end CaseRunner.Toml
