import CaseRunner.Journal.Entry
import CaseRunner.Text.AlphanumericTable
import CaseRunner.Text.Blank
import CaseRunner.Text.LowerCase
import CaseRunner.Text.Numeral

/-!
# `CaseRunner.Journal.Filter`: which entries are shown

A filter is a list of directives with commas between them. A directive says up to which
level of detail entries are shown, everywhere or for the parts of the program whose
names begin in a given way, and of several that apply the most specific one counts. A
directive may also name a span and values, in brackets; such spans do not occur in this
program, so those directives show nothing, but they count for the level of the filter.
-/

set_option autoImplicit false

namespace CaseRunner.Journal

open CaseRunner.Text

/-- How detailed the shown entries may be: nothing at 0, everything at 5. -/
abbrev Detail := Nat

/-- The name of a level of detail. -/
def detailName (detail : Detail) : String :=
  match detail with
  | 0 => "off"
  | 1 => "error"
  | 2 => "warn"
  | 3 => "info"
  | 4 => "debug"
  | _ => "trace"

/-- Every detail. -/
def fullDetail : Detail := 5

/-- The level of detail that a word in small letters names. -/
def detailOfWord? (word : String) : Option Detail :=
  [0, 1, 2, 3, 4, 5].find? fun detail => detailName detail = word

/-- A text with its ASCII letters small. -/
def asciiLower (text : List Char) : List Char := text.map Char.toLower

/-- The level of detail that a text gives by number or by name. -/
def detail? (text : List Char) : Option Detail :=
  match readNatural 10 maxWord text with
  | .ok n => if n ≤ fullDetail then some n else none
  | .error _ =>
    if text.isEmpty then some 1 else detailOfWord? (String.ofList (asciiLower text))

/-- Why a text is no directive. -/
inductive DirectiveFault where
  /-- Its marks are in no order that has a meaning. -/
  | malformed
  /-- Its level of detail is none. -/
  | unknownDetail
  deriving DecidableEq, Repr

/-- What a fault is called, from the outside in. -/
def DirectiveFault.chain : DirectiveFault → List String
  | .malformed => ["invalid filter directive"]
  | .unknownDetail =>
    let text := "error parsing level filter: expected one of \"off\", \"error\", \"warn\", "
      ++ "\"info\", \"debug\", \"trace\", or a number 0-5"
    [text, text]

/-- One part of a filter. -/
structure Directive where
  /-- How the names of the parts begin that the directive is about; all, if none. -/
  target : Option (List Char)
  /-- The span that the directive is about. -/
  span : Option (List Char)
  /-- The values that an entry must have, each with whether the directive asks for a
  certain value. -/
  fields : List (List Char × Bool)
  /-- The level of detail. -/
  detail : Detail
  deriving DecidableEq, Repr

namespace Directive

/-- Whether the directive is about spans only. -/
def needsSpan (d : Directive) : Bool := d.span.isSome || d.fields.any (·.2)

/-- Whether the directive is about the entry. -/
def appliesTo (d : Directive) (e : Entry) : Bool :=
  (d.target.all fun target => target.isPrefixOf e.origin.name.toList)
    && d.fields.all fun (name, _) =>
      name = "message".toList || e.fields.any fun (field, _) => field.toList = name

/-- Where the reading of a directive stands. -/
inductive Stage where
  /-- Before the first character. -/
  | start
  /-- In a target or a level: the characters so far, the last one first. -/
  | word (reversed : List Char)
  /-- In the name of a span. -/
  | span (reversed : List Char)
  /-- In the name or value of a field. -/
  | field (reversed : List Char)
  /-- After the fields. -/
  | fields
  /-- After the span. -/
  | target
  /-- In a level. -/
  | level (reversed : List Char)
  deriving DecidableEq, Repr

/-- Whether a directive can begin with the character. -/
def canBegin (c : Char) : Bool :=
  c = '-' || c = ':' || c = '_' || alphanumericRanges.holds c

/-- The field that a text names, and whether it asks for a value. -/
def fieldOf (text : List Char) : List Char × Bool :=
  (text.takeWhile (· ≠ '='), text.contains '=')

/-- The directive and the stage after one more character. -/
def step (d : Directive) (c : Char) : Stage → Except DirectiveFault (Directive × Stage)
  | .start =>
    if c = '[' then .ok (d, .span [])
    else if canBegin c then .ok (d, .word [c])
    else .error .malformed
  | .word reversed =>
    if c = '=' then .ok ({ d with target := some reversed.reverse }, .level [])
    else if c = '[' then .ok ({ d with target := some reversed.reverse }, .span [])
    else .ok (d, .word (c :: reversed))
  | .span reversed =>
    if c = ']' then .ok ({ d with span := some reversed.reverse }, .target)
    else if c = '\x7b' then
      .ok ({ d with span := if reversed.isEmpty then none else some reversed.reverse }, .field [])
    else .ok (d, .span (c :: reversed))
  | .field reversed =>
    if c = '\x7d' then
      if reversed.isEmpty then .error .malformed
      else .ok ({ d with fields := d.fields ++ [fieldOf reversed.reverse] }, .fields)
    else .ok (d, .field (c :: reversed))
  | .fields => if c = ']' then .ok (d, .target) else .error .malformed
  | .target => if c = '=' then .ok (d, .level []) else .error .malformed
  | .level reversed => .ok (d, .level (c :: reversed))

/-- The directive when its text ends. A target alone shows every detail. -/
def finish (d : Directive) : Stage → Except DirectiveFault Directive
  | .word reversed =>
    match detail? reversed.reverse with
    | some detail => .ok { d with detail := detail, target := none }
    | none => .ok { d with detail := fullDetail, target := some reversed.reverse }
  | .level reversed =>
    if reversed.isEmpty then .ok { d with detail := fullDetail }
    else
      match detail? reversed.reverse with
      | some detail => .ok { d with detail := detail }
      | none => .error .unknownDetail
  | .target => .ok d
  | _ => .error .malformed

/-- Reads on from a stage. -/
def readFrom (d : Directive) (stage : Stage) : List Char → Except DirectiveFault Directive
  | [] => d.finish stage
  | c :: rest =>
    match d.step c stage with
    | .ok (d, stage) => readFrom d stage rest
    | .error fault => .error fault

/-- Reads a directive. -/
def read (text : List Char) : Except DirectiveFault Directive :=
  readFrom ⟨none, none, [], fullDetail⟩ .start (trim text)

/-- Whether `d` counts before `other`: the longer target first, then the more fields. -/
def isMoreSpecific (d other : Directive) : Bool :=
  let size (x : Directive) : Nat := (x.target.map fun t => (encode t).length + 1).getD 0
  size other < size d || size other = size d && other.fields.length < d.fields.length
where
  /-- The bytes of a target. -/
  encode (t : List Char) : List UInt8 := t.flatMap String.utf8EncodeChar

/-- Whether two directives are about the same entries. -/
def sameSubject (d other : Directive) : Bool :=
  d.target = other.target && d.fields.map (·.1) = other.fields.map (·.1)

end Directive

/-- A list of directives, in the order they were given. -/
structure Filter where
  /-- The directives. -/
  directives : List Directive
  deriving DecidableEq, Repr

namespace Filter

/-- The filter that shows entries up to a level of detail. -/
def upTo (detail : Detail) : Filter := ⟨[⟨none, none, [], detail⟩]⟩

/-- The stretches of a text between commas, the empty ones left out. -/
def splitComma (text : List Char) : List (List Char) :=
  (text.foldr (fun c parts =>
    if c = ',' then [] :: parts
    else
      match parts with
      | [] => [[c]]
      | part :: others => (c :: part) :: others) [[]]).filter (!·.isEmpty)

/-- Reads a filter; one without directives shows nothing. -/
def read (text : List Char) : Except DirectiveFault Filter :=
  ((splitComma text).mapM Directive.read).map fun directives =>
    if directives.isEmpty then upTo 0 else ⟨directives⟩

/-- The greatest level of detail that the filter can show. -/
def maxDetail (f : Filter) : Detail :=
  if f.directives.any fun d => d.fields.any (·.2) then fullDetail
  else f.directives.foldl (fun detail d => max detail d.detail) 0

/-- Whether the entry is shown: the most specific directive about it decides, and of
equally specific ones about the same entries the last. -/
def shows (f : Filter) (e : Entry) : Bool :=
  let candidates := f.directives.filter fun d => !d.needsSpan && d.appliesTo e
  let best := candidates.foldl (fun best d =>
    match best with
    | none => some d
    | some b => if d.isMoreSpecific b || d.sameSubject b then some d else some b) none
  best.any fun d => e.severity.rank ≤ d.detail

/-- A text that is no filter, and why. -/
structure Invalid where
  /-- The text. -/
  text : String
  /-- What is wrong with its first directive that is none. -/
  cause : DirectiveFault
  deriving DecidableEq, Repr

/-- What is said of a text that is no filter, from the outside in. -/
def Invalid.chain (i : Invalid) : List String :=
  s!"invalid TPT_EXEC_LOG value '{i.text}'" :: i.cause.chain

/-- The filter for a level asked for on the command line and a text from the
environment. The level counts first. -/
def choose (level : Option Detail) (directives : Option String) : Except Invalid Filter :=
  match level with
  | some detail => .ok (upTo detail)
  | none =>
    let text := trim (directives.getD "").toList
    if text.isEmpty then .ok (upTo 3)
    else
      (read text).mapError fun cause => ⟨String.ofList text, cause⟩

end Filter

end CaseRunner.Journal
