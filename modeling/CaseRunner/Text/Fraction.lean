import CaseRunner.Text.Numeral

/-!
# `CaseRunner.Text.Fraction`: numbers with a fraction as text

A number with a fraction is kept to the precision of a binary number of 64 bits, that is
53 binary digits. `nearest` finds the binary number nearest to a decimal one, `shortest`
the shortest decimal number that is nearest to none but the given binary one, and
`shown` writes it with a point and without an exponent. All is done in whole numbers.

* `shortest_within`: a number that is found lies among those that are read as the given
  one.
-/

set_option autoImplicit false

namespace CaseRunner.Text

/-- The number `digits * 10 ^ exponent`. -/
structure Decimal where
  /-- The digits as one whole number. -/
  digits : Nat
  /-- The power of ten. -/
  exponent : Int
  deriving DecidableEq, Repr

/-- The number `mantissa * 2 ^ exponent`. -/
structure Binary where
  /-- The binary digits as one whole number, at most 53 of them. -/
  mantissa : Nat
  /-- The power of two. -/
  exponent : Int
  deriving DecidableEq, Repr

/-- The numerator and the denominator of a power. -/
def powerParts (base : Nat) (exponent : Int) : Nat × Nat :=
  (Nat.pow base exponent.toNat, Nat.pow base (-exponent).toNat)

/-- The quotient as a whole number; half of a unit goes to the even neighbour. -/
def divideToEven (a b : Nat) : Nat :=
  let q := a / b
  let twice := 2 * (a % b)
  if b < twice ∨ (twice = b ∧ q % 2 = 1) then q + 1 else q

/-- The greatest power of two that is not above the quotient. -/
def floorLog2 (a b : Nat) : Int :=
  let guess : Int := (a.log2 : Int) - (b.log2 : Int)
  let (up, down) := powerParts 2 guess
  if b * up ≤ a * down then guess else guess - 1

/-- The smallest mantissa of 53 binary digits. -/
def fullMantissa : Nat := valuesOfBits 52

/-- The lowest power of two. -/
def lowestExponent : Int := -1074

/-- The highest power of two. -/
def highestExponent : Int := 971

/-- The nearest binary number to a quotient above zero, or nothing if it is too great. -/
def nearestQuotient (a b : Nat) : Option Binary :=
  let exponent := max (floorLog2 a b - 52) lowestExponent
  let (up, down) := powerParts 2 exponent
  let mantissa := divideToEven (a * down) (b * up)
  let result : Binary :=
    if mantissa = 2 * fullMantissa then ⟨fullMantissa, exponent + 1⟩ else ⟨mantissa, exponent⟩
  if highestExponent < result.exponent then none else some result

/-- The nearest binary number to a decimal one, or nothing if it is too great. A number
with more than 400 places before or behind the point is too great or as good as zero. -/
def nearest (d : Decimal) : Option Binary :=
  let size : Int := (Nat.toDigits 10 d.digits).length + d.exponent
  if d.digits = 0 ∨ size < -400 then some ⟨0, lowestExponent⟩
  else if 400 < size then none
  else
    let (up, down) := powerParts 10 d.exponent
    nearestQuotient (d.digits * up) down

/-- The decimal numbers that are read as one binary number: those between two bounds,
which are counted in quarters of its last binary digit. -/
structure Span where
  /-- The lower bound. -/
  low : Nat
  /-- The upper bound. -/
  high : Nat
  /-- Whether the bounds belong to it. -/
  closed : Bool
  deriving DecidableEq, Repr

/-- The decimal numbers that are read as a binary number. Below a power of two the
neighbour is half as far away as above it. -/
def Binary.span (b : Binary) : Span where
  low := if b.mantissa = fullMantissa ∧ lowestExponent < b.exponent then 4 * b.mantissa - 1
    else 4 * b.mantissa - 2
  high := 4 * b.mantissa + 2
  closed := b.mantissa % 2 = 0

/-- Whether the quotient of two numbers lies in the span. -/
def Span.holds (s : Span) (a b : Nat) : Bool :=
  if s.closed then s.low * b ≤ a && a ≤ s.high * b else s.low * b < a && a < s.high * b

/-- The units of a power of ten in quarters of the last binary digit of a number, as a
numerator and a denominator. -/
def Binary.gridParts (b : Binary) (exponent : Int) : Nat × Nat :=
  let (up, down) := powerParts 10 exponent
  let (twoUp, twoDown) := powerParts 2 (b.exponent - 2)
  (up * twoDown, down * twoUp)

/-- Whether `digits * 10 ^ exponent` is read as the binary number. -/
def Binary.reads (b : Binary) (d : Decimal) : Bool :=
  let (up, down) := b.gridParts d.exponent
  b.span.holds (d.digits * up) down

/-- The multiple of a power of ten that is read as the binary number, the nearer one if
there are two beside it. -/
def Binary.onGrid (b : Binary) (exponent : Int) : Option Decimal :=
  let (up, down) := b.gridParts exponent
  let below := 4 * b.mantissa * down / up
  let candidates : List Decimal :=
    if 2 * (4 * b.mantissa * down - below * up) ≤ up
    then [⟨below, exponent⟩, ⟨below + 1, exponent⟩]
    else [⟨below + 1, exponent⟩, ⟨below, exponent⟩]
  candidates.find? fun d => 0 < d.digits && b.reads d

/-- The shortest decimal number that is read as the binary number: the one on the
coarsest grid of powers of ten. -/
def Binary.shortest (b : Binary) : Option Decimal :=
  if b.mantissa = 0 then some ⟨0, 0⟩
  else (List.range 660).findSome? fun (i : Nat) => b.onGrid (310 - (i : Int))

/-- The shortest decimal number is read as the binary number. -/
theorem shortest_within {b : Binary} {d : Decimal} (h : b.shortest = some d) :
    b.reads d = true := by
  rw [Binary.shortest] at h
  split at h
  case isTrue zero =>
    cases h
    simp [Binary.reads, Span.holds, Binary.span, zero]
  case isFalse =>
    obtain ⟨i, _, hi⟩ := List.exists_of_findSome?_eq_some h
    have found := List.find?_some hi
    simpa using And.right (by simpa using found)

/-- A decimal number with a point and at least one digit on either side of it. -/
def Decimal.positional (d : Decimal) : String :=
  let digits := Nat.toDigits 10 d.digits
  if 0 ≤ d.exponent then
    String.ofList (digits ++ List.replicate d.exponent.toNat '0') ++ ".0"
  else
    let places := (-d.exponent).toNat
    let padded := List.replicate (places + 1 - digits.length) '0' ++ digits
    let whole := padded.length - places
    String.ofList (padded.take whole) ++ "." ++ String.ofList (padded.drop whole)

/-- A number with a fraction, as it is written. -/
inductive Fraction where
  /-- A number, below zero if so marked. -/
  | finite (negative : Bool) (value : Decimal)
  /-- A number beyond all others. -/
  | infinite (negative : Bool)
  /-- Not a number. -/
  | undefined
  deriving DecidableEq, Repr

/-- Whether the number is beyond those that are kept. -/
def Fraction.tooLarge : Fraction → Bool
  | .finite _ d => (nearest d).isNone
  | _ => false

/-- The number as kept, in the fewest digits, with a point and without an exponent. -/
def Fraction.shown : Fraction → String
  | .finite negative d =>
    let sign := if negative then "-" else ""
    match nearest d with
    | none => sign ++ "inf"
    | some b => sign ++ ((b.shortest.map Decimal.positional).getD "0.0")
  | .infinite negative => if negative then "-inf" else "inf"
  | .undefined => "NaN"

end CaseRunner.Text
