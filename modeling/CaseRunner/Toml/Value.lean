import CaseRunner.Text.Fraction

/-!
# `CaseRunner.Toml.Value`: the values of a TOML document

A table holds its keys in order, each once. How a table came about decides who may add
to it (`Origin`): one that only lies on the way to a header may still get a header of its
own, one that lies on the way to a key may only be added to by such keys or by headers
below it, and one written between braces is complete.

`within` follows a path of keys into nested tables, creates those that are missing, and
changes the one at its end. `fill` puts keys with values into a table.
-/

set_option autoImplicit false

namespace CaseRunner.Toml

open CaseRunner.Text (Fraction)

/-- How a table came about. -/
inductive Origin where
  /-- It has a header, or is the document. -/
  | header
  /-- It lies on the way to a header. -/
  | implied
  /-- It lies on the way to a key. -/
  | dotted
  /-- It is written between braces. -/
  | inline
  deriving DecidableEq, Repr

/-- A value. -/
inductive Value where
  /-- A text. -/
  | text (s : String)
  /-- A whole number. -/
  | integer (n : Int)
  /-- A number with a fraction. -/
  | fraction (x : Fraction)
  /-- A truth value. -/
  | boolean (b : Bool)
  /-- A date, a time of day, or both. -/
  | moment
  /-- Values in order; `ofHeaders` if they are tables with headers of their own. -/
  | array (ofHeaders : Bool) (items : List Value)
  /-- Values by key, in the order of the keys. -/
  | table (origin : Origin) (entries : List (String × Value))
  deriving Repr, Inhabited

/-- The keys and values of a table, in the order of the keys. -/
abbrev Entries := List (String × Value)

namespace Entries

/-- The value of a key. -/
def get? (entries : Entries) (key : String) : Option Value :=
  (entries.find? (·.1 = key)).map (·.2)

/-- Gives a key a value. -/
def put (key : String) (value : Value) : Entries → Entries
  | [] => [(key, value)]
  | entry :: rest =>
    if entry.1 = key then (key, value) :: rest
    else if key < entry.1 then (key, value) :: entry :: rest
    else entry :: put key value rest

end Entries

/-- A key with the keys of the tables that lead to it. -/
structure Key where
  /-- The keys of the tables, the outermost first. -/
  path : List String
  /-- The key itself. -/
  last : String
  deriving DecidableEq, Repr

/-- Whether a table may be entered, on the way to a key if `dotted` and else to a header. -/
def Origin.admits (origin : Origin) (dotted : Bool) : Bool :=
  match origin with
  | .inline => false
  | .header => !dotted
  | .implied => true
  | .dotted => true

/-- Changes the table that a path leads to. -/
def within (dotted : Bool) (change : Origin → Entries → Option Entries) :
    List String → Origin → Entries → Option Entries
  | [], origin, entries => change origin entries
  | key :: path, _, entries =>
    match entries.get? key with
    | none => do
      let origin := if dotted then .dotted else .implied
      let inner ← within dotted change path origin []
      return entries.put key (.table origin inner)
    | some (.table origin inner) =>
      if origin.admits dotted then do
        let inner ← within dotted change path origin inner
        return entries.put key (.table origin inner)
      else none
    | some (.array true items) =>
      match items.getLast? with
      | some (.table origin inner) => do
        let inner ← within dotted change path origin inner
        return entries.put key (.array true (items.dropLast ++ [.table origin inner]))
      | _ => none
    | some _ => none

/-- Puts a key with its value into the table it belongs to, which must not have it yet. A
table that is not on the way to a key is filled under its own header only. -/
def putKey (key : Key) (value : Value) (entries : Entries) : Option Entries :=
  within true (fun origin inner =>
    if key.path.isEmpty = (origin = .dotted) then none
    else if (inner.get? key.last).isSome then none
    else some (inner.put key.last value)) key.path .header entries

/-- Puts keys with their values into a table. -/
def fill (lines : List (Key × Value)) (entries : Entries) : Option Entries :=
  lines.foldlM (fun entries (key, value) => putKey key value entries) entries

/-- Whether the number is beyond those that are kept. -/
def integerTooLarge (n : Int) : Bool :=
  n < -(Text.valuesOfBits 127 : Int) || (Text.valuesOfBits 128 : Int) ≤ n

/-! A value holds a number that is too large if it is one, or if one of its parts does. -/

mutual

/-- Whether the value holds a number that is too large. -/
def Value.tooLarge : Value → Bool
  | .integer n => integerTooLarge n
  | .fraction x => x.tooLarge
  | .array _ items => anyTooLarge items
  | .table _ entries => anyEntryTooLarge entries
  | _ => false

/-- Whether one of the values holds a number that is too large. -/
def anyTooLarge : List Value → Bool
  | [] => false
  | value :: rest => value.tooLarge || anyTooLarge rest

/-- Whether the value of a key holds a number that is too large. -/
def anyEntryTooLarge : List (String × Value) → Bool
  | [] => false
  | (_, value) :: rest => value.tooLarge || anyEntryTooLarge rest

end

end CaseRunner.Toml
