import CaseRunner.Text.CodeRanges

/-!
# `CaseRunner.Text.Blank`: white space and trimming

White space is the Unicode property White_Space, which has no members beyond those
listed here. Trimming removes it from the ends of a text and from nowhere else:

* `trim_eq_nil_iff`: a text is blank, that is, trims to nothing, exactly if all its
  characters are white space.
-/

set_option autoImplicit false

namespace CaseRunner.Text

/-- The code points with the property White_Space. -/
def blankRanges : CodeRanges := [
  (0x9, 0xD), (0x20, 0x20), (0x85, 0x85), (0xA0, 0xA0), (0x1680, 0x1680), (0x2000, 0x200A),
  (0x2028, 0x2029), (0x202F, 0x202F), (0x205F, 0x205F), (0x3000, 0x3000)]

/-- Whether the character is white space. -/
def isBlank (c : Char) : Bool := blankRanges.holds c

/-- The text from its first character that is not white space. -/
def trimStart (text : List Char) : List Char := text.dropWhile isBlank

/-- The text up to its last character that is not white space. -/
def trimEnd (text : List Char) : List Char := (text.reverse.dropWhile isBlank).reverse

/-- The text without the white space at either end. -/
def trim (text : List Char) : List Char := trimEnd (trimStart text)

/-- The string without the white space at either end. -/
def trimmed (s : String) : String := String.ofList (trim s.toList)

/-- Whether the string holds nothing but white space. -/
def isBlankText (s : String) : Bool := s.toList.all isBlank

/-- Dropping a class of characters from the front leaves nothing exactly if all belong
to it. -/
theorem dropWhile_eq_nil_iff_all (p : Char → Bool) (text : List Char) :
    text.dropWhile p = [] ↔ text.all p = true := by
  induction text with
  | nil => simp
  | cons c rest ih =>
      by_cases h : p c = true
      · simp [h, ih]
      · simp [h]

/-- Trimming the end leaves nothing exactly if all is white space. -/
theorem trimEnd_eq_nil_iff (text : List Char) :
    trimEnd text = [] ↔ text.all isBlank = true := by
  rw [trimEnd, List.reverse_eq_nil_iff, dropWhile_eq_nil_iff_all, List.all_reverse]

/-- A text trims to nothing exactly if all of it is white space. -/
theorem trim_eq_nil_iff (text : List Char) : trim text = [] ↔ text.all isBlank = true := by
  rw [trim, trimEnd_eq_nil_iff, trimStart]
  induction text with
  | nil => simp
  | cons c rest ih =>
      by_cases h : isBlank c = true
      · simpa [h] using ih
      · simp [h]

end CaseRunner.Text
