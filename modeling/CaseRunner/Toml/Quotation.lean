import CaseRunner.Text.Numeral

/-!
# `CaseRunner.Toml.Quotation`: texts in quotation marks

There are four kinds of text: in single marks every character stands for itself, in
double marks a backslash begins an escape; with three marks of either kind the text may
run over several lines. A line end right after three marks does not count, and of four or
five marks at the end the first ones belong to the text.

Each reader begins after the opening marks and returns the text with what follows the
closing marks.
-/

set_option autoImplicit false

namespace CaseRunner.Toml

open CaseRunner.Text (digitValue)

/-- Whether the character may stand for itself within a line. -/
def isPlain (c : Char) : Bool := c = '\t' || (' ' ≤ c && c ≠ '\x7f')

/-- The character with the code point that hexadecimal digits give. -/
def ofCodePoint (digits : List Char) : Option Char := do
  let code ← digits.foldlM (fun value c => do return value * 16 + (← digitValue 16 c)) 0
  if h : code.isValidChar then some (Char.ofNatAux code h) else none

/-- Puts a character in front of a text that was read. -/
def prepend (c : Char) (read : Option (List Char × List Char)) :
    Option (List Char × List Char) :=
  read.map fun (text, rest) => (c :: text, rest)

/-- The character of an escape of one letter. -/
def escaped (c : Char) : Option Char :=
  [('"', '"'), ('\\', '\\'), ('b', '\x08'), ('e', '\x1b'), ('f', '\x0c'), ('n', '\n'),
    ('r', '\r'), ('t', '\t')].lookup c

/-- A text in single marks. -/
def literal : List Char → Option (List Char × List Char)
  | '\'' :: rest => some ([], rest)
  | c :: rest => if isPlain c then prepend c (literal rest) else none
  | [] => none

/-- A text in three single marks. -/
def longLiteral : List Char → Option (List Char × List Char)
  | '\'' :: '\'' :: '\'' :: '\'' :: '\'' :: rest => some (['\'', '\''], rest)
  | '\'' :: '\'' :: '\'' :: '\'' :: rest => some (['\''], rest)
  | '\'' :: '\'' :: '\'' :: rest => some ([], rest)
  | '\r' :: '\n' :: rest => prepend '\r' (prepend '\n' (longLiteral rest))
  | c :: rest => if isPlain c || c = '\n' then prepend c (longLiteral rest) else none
  | [] => none

/-- A text in double marks. -/
def basic : List Char → Option (List Char × List Char)
  | '"' :: rest => some ([], rest)
  | '\\' :: 'x' :: a :: b :: rest => do prepend (← ofCodePoint [a, b]) (basic rest)
  | '\\' :: 'u' :: a :: b :: c :: d :: rest => do
    prepend (← ofCodePoint [a, b, c, d]) (basic rest)
  | '\\' :: 'U' :: a :: b :: c :: d :: e :: f :: g :: h :: rest => do
    prepend (← ofCodePoint [a, b, c, d, e, f, g, h]) (basic rest)
  | '\\' :: c :: rest => do prepend (← escaped c) (basic rest)
  | c :: rest => if isPlain c then prepend c (basic rest) else none
  | [] => none

/-- Whether only blanks stand before the next line end. -/
def lineIsOver : List Char → Bool
  | '\n' :: _ => true
  | '\r' :: '\n' :: _ => true
  | c :: rest => (c = ' ' || c = '\t') && lineIsOver rest
  | [] => false

/-- A text in three double marks. A backslash at the end of a line joins the line to the
next character that is no white space; until there the text is `joining`. -/
def longBasic (joining : Bool) : List Char → Option (List Char × List Char)
  | '"' :: '"' :: '"' :: '"' :: '"' :: rest => some (['"', '"'], rest)
  | '"' :: '"' :: '"' :: '"' :: rest => some (['"'], rest)
  | '"' :: '"' :: '"' :: rest => some ([], rest)
  | '\\' :: 'x' :: a :: b :: rest => do prepend (← ofCodePoint [a, b]) (longBasic false rest)
  | '\\' :: 'u' :: a :: b :: c :: d :: rest => do
    prepend (← ofCodePoint [a, b, c, d]) (longBasic false rest)
  | '\\' :: 'U' :: a :: b :: c :: d :: e :: f :: g :: h :: rest => do
    prepend (← ofCodePoint [a, b, c, d, e, f, g, h]) (longBasic false rest)
  | '\\' :: c :: rest =>
    if lineIsOver (c :: rest) then longBasic true (c :: rest)
    else do prepend (← escaped c) (longBasic false rest)
  | '\r' :: '\n' :: rest =>
    if joining then longBasic true rest
    else prepend '\r' (prepend '\n' (longBasic false rest))
  | c :: rest =>
    if joining && (c = ' ' || c = '\t' || c = '\n') then longBasic true rest
    else if isPlain c || c = '\n' then prepend c (longBasic false rest)
    else none
  | [] => none

/-- The text without a line end at its beginning. -/
def dropLineEnd : List Char → List Char
  | '\n' :: rest => rest
  | '\r' :: '\n' :: rest => rest
  | text => text

/-- A text of any kind with its marks. -/
def quotation : List Char → Option (List Char × List Char)
  | '"' :: '"' :: '"' :: rest => longBasic false (dropLineEnd rest)
  | '\'' :: '\'' :: '\'' :: rest => longLiteral (dropLineEnd rest)
  | '"' :: rest => basic rest
  | '\'' :: rest => literal rest
  | _ => none

end CaseRunner.Toml
