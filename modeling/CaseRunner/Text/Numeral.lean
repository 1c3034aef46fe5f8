/-!
# `CaseRunner.Text.Numeral`: whole numbers as text

A number is a run of digits, in the end with a sign before it, whose value fits the
range asked for. The digits are read from the left, and reading stops at the first
character that is no digit or takes the value out of range: of two faults the left one
is reported.
-/

set_option autoImplicit false

namespace CaseRunner.Text

/-- Why a text is not a number of the range asked for. -/
inductive NumeralFault where
  /-- There is no character at all. -/
  | empty
  /-- A character that is no digit, or a sign alone. -/
  | badDigit
  /-- The value is above the range. -/
  | tooLarge
  /-- The value is below the range. -/
  | tooSmall
  deriving DecidableEq, Repr

/-- What a fault is called. -/
def NumeralFault.message : NumeralFault → String
  | .empty => "cannot parse integer from empty string"
  | .badDigit => "invalid digit found in string"
  | .tooLarge => "number too large to fit in target type"
  | .tooSmall => "number too small to fit in target type"

/-- The value of a digit or of a letter standing for one, below `radix`. -/
def digitValue (radix : Nat) (c : Char) : Option Nat :=
  let value :=
    if '0' ≤ c ∧ c ≤ '9' then some (c.toNat - '0'.toNat)
    else if 'a' ≤ c ∧ c ≤ 'z' then some (c.toNat - 'a'.toNat + 10)
    else if 'A' ≤ c ∧ c ≤ 'Z' then some (c.toNat - 'A'.toNat + 10)
    else none
  value.filter (· < radix)

/-- Reads digits after the value `value`; a value above `limit` is the fault `excess`. -/
def readDigits (radix limit : Nat) (excess : NumeralFault) (value : Nat) :
    List Char → Except NumeralFault Nat
  | [] => .ok value
  | c :: rest =>
    match digitValue radix c with
    | none => .error .badDigit
    | some d =>
      if limit < value * radix + d then .error excess
      else readDigits radix limit excess (value * radix + d) rest

/-- Reads a number from zero to `limit`, which may begin with a plus sign. -/
def readNatural (radix limit : Nat) : List Char → Except NumeralFault Nat
  | [] => .error .empty
  | ['+'] => .error .badDigit
  | '+' :: rest => readDigits radix limit .tooLarge 0 rest
  | text => readDigits radix limit .tooLarge 0 text

/-- Reads a number from `-limit - 1` to `limit`, which may begin with a sign. -/
def readInteger (limit : Nat) : List Char → Except NumeralFault Int
  | [] => .error .empty
  | ['+'] => .error .badDigit
  | ['-'] => .error .badDigit
  | '+' :: rest => (readDigits 10 limit .tooLarge 0 rest).map Int.ofNat
  | '-' :: rest => (readDigits 10 (limit + 1) .tooSmall 0 rest).map fun n => -(Int.ofNat n)
  | text => (readDigits 10 limit .tooLarge 0 text).map Int.ofNat

/-- How many values so many bits have. -/
def valuesOfBits (bits : Nat) : Nat := Nat.pow 2 bits

/-- The greatest number of 64 bits without a sign. -/
def maxWord : Nat := valuesOfBits 64 - 1

/-- The greatest number of 64 bits with a sign. -/
def maxSigned : Nat := valuesOfBits 63 - 1

end CaseRunner.Text
