import CaseRunner.Text.PrintableTable

/-!
# `CaseRunner.Text.Quoted`: texts in quotation marks

A quoted text shows a string so that its ends and its invisible characters can be seen:
quotation marks and backslashes are escaped, the common control characters have short
escapes, and every other character that leaves no mark, or that combines with the one
before it, is written by its code point.
-/

set_option autoImplicit false

namespace CaseRunner.Text

/-- The escape by code point, in small hexadecimal digits. -/
def codePointEscape (c : Char) : String :=
  "\\u\x7b" ++ String.ofList (Nat.toDigits 16 c.toNat) ++ "\x7d"

/-- One character as it stands in a quoted text. -/
def quoteChar (c : Char) : String :=
  if c = '"' then "\\\""
  else if c = '\\' then "\\\\"
  else if c = '\n' then "\\n"
  else if c = '\r' then "\\r"
  else if c = '\t' then "\\t"
  else if c.toNat = 0 then "\\0"
  else if graphemeExtendRanges.holds c || unprintableRanges.holds c then codePointEscape c
  else c.toString

/-- The string in quotation marks, with the escapes it needs. -/
def quoted (s : String) : String :=
  "\"" ++ String.join (s.toList.map quoteChar) ++ "\""

/-- A list of written values, in brackets. -/
def bracketed (items : List String) : String :=
  "[" ++ ", ".intercalate items ++ "]"

end CaseRunner.Text
