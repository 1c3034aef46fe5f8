import CaseRunner.Text.CasedTable
import CaseRunner.Text.LowerCaseTable

/-!
# `CaseRunner.Text.LowerCase`: the small form of a text

Every character is replaced by its lower-case mapping in the Unicode character
database. Two characters need more than the one-to-one rows: a capital I with a dot
becomes a small i followed by a combining dot, and a capital sigma takes its final form
at the end of a word.
-/

set_option autoImplicit false

namespace CaseRunner.Text

/-- The code point a row maps `n` to, if the row holds `n`. -/
def LowerRow.apply (row : LowerRow) (n : Nat) : Option Nat :=
  if row.first ≤ n ∧ n ≤ row.last ∧ (n - row.first) % row.step = 0 then
    some (row.target + (n - row.first))
  else
    none

/-- The small form of one character, its neighbours not considered. -/
def lowerChar (c : Char) : List Char :=
  if c.toNat < 0x80 then
    [c.toLower]
  else if c.toNat = 0x130 then
    [Char.ofNat 0x69, Char.ofNat 0x307]
  else
    match lowerRows.findSome? (·.apply c.toNat) with
    | some n => [Char.ofNat n]
    | none => [c]

/-- Whether the nearest character that casing does not pass over is a cased letter. -/
def meetsCased (neighbours : List Char) : Bool :=
  match neighbours.dropWhile caseIgnorableRanges.holds with
  | [] => false
  | c :: _ => casedRanges.holds c

/-- The small form of `text` that follows the characters `before`, the nearest first. A
capital sigma is final if a cased letter precedes it and none follows. -/
def lowerAfter (before : List Char) : List Char → List Char
  | [] => []
  | c :: rest =>
    let small :=
      if c.toNat = 0x3A3 then
        if meetsCased before && !meetsCased rest then [Char.ofNat 0x3C2] else [Char.ofNat 0x3C3]
      else
        lowerChar c
    small ++ lowerAfter (c :: before) rest

/-- The small form of a text. -/
def lower (text : List Char) : List Char := lowerAfter [] text

/-- The small form of a string. -/
def lowered (s : String) : String := String.ofList (lower s.toList)

end CaseRunner.Text
