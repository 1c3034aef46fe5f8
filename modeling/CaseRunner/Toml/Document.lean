import CaseRunner.Toml.Quotation
import CaseRunner.Toml.Scalar

/-!
# `CaseRunner.Toml.Document`: reading a TOML document

A document is a series of lines that give keys their values, cut into sections by
headers. Reading has two steps: `sections` looks at the characters only, `assemble` puts
the sections into one table and sees to it that no key and no table is given twice. A
document that breaks a rule has no value; which rule it was is not kept.

Every reader takes the characters from a place on and returns what it read with the
characters that follow.
-/

set_option autoImplicit false

namespace CaseRunner.Toml

/-- Whether the character separates words within a line. -/
def isGap (c : Char) : Bool := c = ' ' || c = '\t'

/-- The characters after blanks. -/
def skipGap (text : List Char) : List Char := text.dropWhile isGap

/-- The characters after blanks, comments and line ends; `inComment` if a comment has
begun. -/
def skipLines (inComment : Bool) : List Char → Option (List Char)
  | [] => some []
  | '\n' :: rest => skipLines false rest
  | '\r' :: '\n' :: rest => skipLines false rest
  | c :: rest =>
    if inComment then if isPlain c then skipLines true rest else none
    else if isGap c then skipLines false rest
    else if c = '#' then skipLines true rest
    else some (c :: rest)

/-- The characters of the next line, if nothing but a comment is left of this one. -/
def endLine (inComment : Bool) : List Char → Option (List Char)
  | [] => some []
  | '\n' :: rest => some rest
  | '\r' :: '\n' :: rest => some rest
  | c :: rest =>
    if inComment then if isPlain c then endLine true rest else none
    else if isGap c then endLine false rest
    else if c = '#' then endLine true rest
    else none

/-! ### Keys -/

/-- Whether the character may stand in a key without quotation marks. -/
def isKeyChar (c : Char) : Bool := c.isAlphanum || c = '_' || c = '-'

/-- One part of a key. Marks for a text of several lines are none here. -/
def keyPart (text : List Char) : Option (String × List Char) :=
  match text with
  | '"' :: rest => (basic rest).map fun (part, rest) => (String.ofList part, rest)
  | '\'' :: rest => (literal rest).map fun (part, rest) => (String.ofList part, rest)
  | _ =>
    let part := text.takeWhile isKeyChar
    if part.isEmpty then none else some (String.ofList part, text.drop part.length)

/-- A key of at most `count` parts with points between them. -/
def keyParts : Nat → List Char → Option (Key × List Char)
  | 0, _ => none
  | count + 1, text => do
    let (part, rest) ← keyPart (skipGap text)
    match skipGap rest with
    | '.' :: rest =>
      let (key, rest) ← keyParts count rest
      return ({ key with path := part :: key.path }, rest)
    | rest => return (⟨[], part⟩, rest)

/-- A key and the blanks around it. -/
def key (text : List Char) : Option (Key × List Char) := keyParts text.length text

/-! ### Values -/

/-- A reader of something. -/
abbrev Reader (α : Type) := List Char → Option (α × List Char)

/-- At most `count` values with commas between them and perhaps after the last one, up to
a closing bracket; they may stand on several lines. -/
def arrayItems (value : Reader Value) : Nat → Reader (List Value)
  | 0, _ => none
  | count + 1, text => do
    match ← skipLines false text with
    | ']' :: rest => return ([], rest)
    | text =>
      let (item, rest) ← value text
      match ← skipLines false rest with
      | ',' :: rest =>
        let (items, rest) ← arrayItems value count rest
        return (item :: items, rest)
      | ']' :: rest => return ([item], rest)
      | _ => none

/-- A key, an equals sign and a value. -/
def keyValue (value : Reader Value) (text : List Char) : Option ((Key × Value) × List Char) := do
  let (key, rest) ← key text
  match rest with
  | '=' :: rest =>
    let (item, rest) ← value (skipGap rest)
    return ((key, item), rest)
  | _ => none

/-- At most `count` keys with values and commas between them and perhaps after the last
one, up to a closing brace; they may stand on several lines. -/
def inlineLines (value : Reader Value) : Nat → Reader (List (Key × Value))
  | 0, _ => none
  | count + 1, text => do
    match ← skipLines false text with
    | '\x7d' :: rest => return ([], rest)
    | text =>
      let (line, rest) ← keyValue value text
      match ← skipLines false rest with
      | ',' :: rest =>
        let (lines, rest) ← inlineLines value count rest
        return (line :: lines, rest)
      | '\x7d' :: rest => return ([line], rest)
      | _ => none

/-- Whether the character may stand in a value without quotation marks. -/
def isScalarChar (c : Char) : Bool :=
  c.isAlphanum || c = '_' || c = '-' || c = '+' || c = '.' || c = ':'

/-- The characters of a value without quotation marks. A blank within it is the one
between a date and a time of day. -/
def scalarText (text : List Char) : List Char :=
  let word := text.takeWhile isScalarChar
  match date? word, text.drop word.length with
  | some [], ' ' :: next :: rest =>
    if next.isDigit then word ++ ' ' :: (next :: rest).takeWhile isScalarChar else word
  | _, _ => word

/-- A value without quotation marks. -/
def scalar (text : List Char) : Option (Value × List Char) :=
  let word := scalarText text
  (scalar? word).map fun value => (value, text.drop word.length)

/-- A value, with at most `depth` brackets and braces open at once. -/
def value : Nat → Reader Value
  | depth, '[' :: rest =>
    match depth with
    | 0 => none
    | depth + 1 => do
      let (items, rest) ← arrayItems (value depth) (rest.length + 1) rest
      return (.array false items, rest)
  | depth, '\x7b' :: rest =>
    match depth with
    | 0 => none
    | depth + 1 => do
      let (lines, rest) ← inlineLines (value depth) (rest.length + 1) rest
      return (.table .inline (← fill lines []), rest)
  | _, '"' :: rest => do
    let (text, rest) ← quotation ('"' :: rest)
    return (.text (String.ofList text), rest)
  | _, '\'' :: rest => do
    let (text, rest) ← quotation ('\'' :: rest)
    return (.text (String.ofList text), rest)
  | _, text => scalar text

/-- The greatest number of brackets and braces open at once. -/
def maxDepth : Nat := 80

/-! ### Sections -/

/-- The header of a section; `repeated` if it adds a table to an array. -/
structure Header where
  /-- Whether each such header stands for a new table. -/
  repeated : Bool
  /-- The key of the table or of the array. -/
  key : Key
  deriving DecidableEq, Repr

/-- A header and the lines below it. -/
structure Section where
  /-- The header; the lines before the first one have none. -/
  header : Option Header
  /-- The keys with their values. -/
  lines : List (Key × Value)

/-- A header with its brackets. -/
def header : Reader Header
  | '[' :: '[' :: rest => do
    let (key, rest) ← key rest
    match rest with
    | ']' :: ']' :: rest => return (⟨true, key⟩, rest)
    | _ => none
  | '[' :: rest => do
    let (key, rest) ← key rest
    match rest with
    | ']' :: rest => return (⟨false, key⟩, rest)
    | _ => none
  | _ => none

/-- The sections of at most `count` lines. The lines of the current section, whose header
is given, come first. -/
def sectionsOf (current : Option Header) : Nat → List Char → Option (List Section)
  | 0, _ => none
  | count + 1, text => do
    match ← skipLines false text with
    | [] => return [⟨current, []⟩]
    | '[' :: rest =>
      let (next, rest) ← header ('[' :: rest)
      let sections ← sectionsOf (some next) count (← endLine false rest)
      return ⟨current, []⟩ :: sections
    | text =>
      let (line, rest) ← keyValue (value maxDepth) text
      match ← sectionsOf current count (← endLine false rest) with
      | first :: sections => return { first with lines := line :: first.lines } :: sections
      | [] => none

/-- The sections of a document. A mark of the byte order at its beginning does not count. -/
def sections (text : String) : Option (List Section) :=
  let chars := match text.toList with
    | '\ufeff' :: rest => rest
    | chars => chars
  sectionsOf none (chars.length + 1) chars

/-! ### Tables -/

/-- Puts a section with a header into the document. A table that lies on the way to an
earlier header is filled; any other table or value of the same key is in the way. -/
def addSection (header : Header) (lines : List (Key × Value)) (document : Entries) :
    Option Entries :=
  within false (fun _ entries =>
    if header.repeated then do
      let table := Value.table .header (← fill lines [])
      match entries.get? header.key.last with
      | none => return entries.put header.key.last (.array true [table])
      | some (.array true items) =>
        return entries.put header.key.last (.array true (items ++ [table]))
      | some _ => none
    else
      match entries.get? header.key.last with
      | none => do return entries.put header.key.last (.table .header (← fill lines []))
      | some (.table .implied inner) => do
        return entries.put header.key.last (.table .header (← fill lines inner))
      | some _ => none) header.key.path .header document

/-- Puts sections into one table. -/
def assemble (sections : List Section) : Option Entries :=
  sections.foldlM (fun document s =>
    match s.header with
    | none => fill s.lines document
    | some header => addSection header s.lines document) []

/-- The table that a document gives. -/
def read (text : String) : Option Entries := (sections text).bind assemble

end CaseRunner.Toml
