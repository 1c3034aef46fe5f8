import CaseRunner.Text.Blank
import CaseRunner.Text.LowerCase
import CaseRunner.Text.Numeral

/-!
# `CaseRunner.Config.Duration`: spans of time as text

A duration is written as a number and a unit: milliseconds, seconds, minutes or hours.
White space around it and before the unit does not count, nor does the case of the unit.
The number fits 64 bits, and so does its value in seconds unless the unit is
milliseconds.

Durations are counted in milliseconds everywhere in the program.
-/

set_option autoImplicit false

namespace CaseRunner.Config

open CaseRunner.Text

/-- A span of time in milliseconds. -/
abbrev Millis := Nat

/-- The whole seconds of a span of time. -/
def seconds (d : Millis) : Nat := d / 1000

/-- Why a text is no duration. -/
inductive DurationFault where
  /-- There is nothing but white space. -/
  | empty
  /-- There is nothing after the digits. -/
  | missingUnit
  /-- The digits are no number that fits. -/
  | badNumber (digits : String) (fault : NumeralFault)
  /-- The unit, in small letters, is unknown. -/
  | unknownUnit (unit : String)
  /-- The seconds do not fit. -/
  | tooLarge (text : String)
  deriving DecidableEq, Repr

/-- What the fault is called. -/
def DurationFault.message : DurationFault → String
  | .empty => "empty duration string"
  | .missingUnit => "duration missing unit suffix"
  | .badNumber digits fault => s!"invalid duration number '{digits}': {fault.message}"
  | .unknownUnit unit => s!"unsupported duration unit '{unit}'; expected ms, s, m, or h"
  | .tooLarge text => s!"duration '{text}' is too large"

/-- Whether the character is a digit of a duration. -/
def isDurationDigit (c : Char) : Bool := '0' ≤ c && c ≤ '9'

/-- A unit of a duration. -/
inductive DurationUnit where
  /-- Milliseconds. -/
  | milliseconds
  /-- So many seconds. -/
  | seconds (each : Nat)
  deriving DecidableEq, Repr

/-- The unit that a word in small letters names. -/
def durationUnit? (word : String) : Option DurationUnit :=
  match word with
  | "ms" => some .milliseconds
  | "s" => some (.seconds 1)
  | "m" => some (.seconds 60)
  | "h" => some (.seconds 3600)
  | _ => none

/-- So many of a unit; `text` is how it was written. -/
def durationOf (text : List Char) (n : Nat) : DurationUnit → Except DurationFault Millis
  | .milliseconds => .ok n
  | .seconds each =>
    if n * each ≤ maxWord then .ok (n * each * 1000) else .error (.tooLarge (String.ofList text))

/-- Reads a duration without white space around it. -/
def readTrimmedDuration (text : List Char) : Except DurationFault Millis :=
  let digits := text.takeWhile isDurationDigit
  let suffix := text.dropWhile isDurationDigit
  let unit := String.ofList (lower (trim suffix))
  if text.isEmpty then .error .empty
  else if suffix.isEmpty then .error .missingUnit
  else
    match readNatural 10 maxWord digits with
    | .error fault => .error (.badNumber (String.ofList digits) fault)
    | .ok n =>
      match durationUnit? unit with
      | none => .error (.unknownUnit unit)
      | some unit => durationOf text n unit

/-- Reads a duration. -/
def readDuration (s : String) : Except DurationFault Millis := readTrimmedDuration (trim s.toList)

end CaseRunner.Config
