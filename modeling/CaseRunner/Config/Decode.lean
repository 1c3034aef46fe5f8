import CaseRunner.Config.Settings
import CaseRunner.Failure
import CaseRunner.Text.Quoted
import CaseRunner.Toml.Document

/-!
# `CaseRunner.Config.Decode`: a configuration from a TOML document

A section of the configuration is described by its fields in order (`Shape`). A table
gives fields by name, in the order of its keys, and unknown keys are passed over; an array
gives them by position. Either way a field that is not given has its default, and one
that has none must be given. Of several faults the one in the key that comes first
counts, and a missing field only if there is no other fault.
-/

set_option autoImplicit false

namespace CaseRunner.Config

open CaseRunner.Text (quoted)
open CaseRunner.Toml (Value Entries)

/-- Why a document gives no configuration. -/
inductive DecodeFault where
  /-- A value is not what is expected. -/
  | wrongType (found expected : String)
  /-- A number is out of the range expected. -/
  | outOfRange (number : Int) (expected : String)
  /-- An array of so many values is too short for a section. -/
  | tooShort (length : Nat) (expected : String)
  /-- A field is missing. -/
  | missing (field : String)
  /-- A number is larger than any that is kept. -/
  | numberTooLarge
  deriving DecidableEq, Repr

/-- What the fault is called, where that is known. -/
def DecodeFault.message : DecodeFault → Option String
  | .wrongType found expected => some s!"invalid type: {found}, expected {expected}"
  | .outOfRange number expected => some s!"invalid value: integer `{number}`, expected {expected}"
  | .tooShort length expected => some s!"invalid length {length}, expected {expected}"
  | .missing field => some s!"missing field `{field}`"
  | .numberTooLarge => none

/-- Whether a number has at most 64 bits, with a sign or without. -/
def fitsWord (n : Int) : Bool :=
  -(Text.valuesOfBits 63 : Int) ≤ n && n < (Text.valuesOfBits 64 : Int)

/-- A value as a fault names it. A number that needs more than 64 bits is said to. -/
def shownValue : Value → String
  | .text s => s!"string {quoted s}"
  | .integer n =>
    if fitsWord n then s!"integer `{n}`"
    else s!"integer `{n}` as " ++ (if n < (Text.valuesOfBits 127 : Int) then "i128" else "u128")
  | .fraction x => s!"floating point `{x.shown}`"
  | .boolean b => s!"boolean `{b}`"
  | .moment => "map"
  | .array _ _ => "sequence"
  | .table _ _ => "map"

/-- The fault of a value that is not what is expected. -/
def unexpected (expected : String) (value : Value) : DecodeFault :=
  match value with
  | .integer n =>
    if Toml.integerTooLarge n then .numberTooLarge else .wrongType (shownValue value) expected
  | .fraction x => if x.tooLarge then .numberTooLarge else .wrongType (shownValue value) expected
  | _ => .wrongType (shownValue value) expected

/-- What a value must be to be taken. -/
abbrev Decoder (α : Type) := Value → Except DecodeFault α

/-- A text. -/
def aText : Decoder String
  | .text s => .ok s
  | value => .error (unexpected "a string" value)

/-- A path. -/
def aPath : Decoder FilePath
  | .text s => .ok (.ofString s)
  | value => .error (unexpected "path string" value)

/-- A truth value. -/
def aFlag : Decoder Bool
  | .boolean b => .ok b
  | value => .error (unexpected "a boolean" value)

/-- A number of 16 bits. -/
def aPort : Decoder Nat
  | .integer n =>
    if !fitsWord n then .error (unexpected "u16" (.integer n))
    else if 0 ≤ n ∧ n.toNat < Text.valuesOfBits 16 then .ok n.toNat
    else .error (.outOfRange n "u16")
  | value => .error (unexpected "u16" value)

/-- Values of one kind in order. -/
def aList {α : Type} (item : Decoder α) : Decoder (List α)
  | .array _ items => items.mapM item
  | value => .error (unexpected "a sequence" value)

/-- A field of a section: what taking its value does to the section. -/
structure Field (σ : Type) where
  /-- The key. -/
  name : String
  /-- Whether the field must be given. -/
  required : Bool
  /-- Takes the value. -/
  take : Value → σ → Except DecodeFault σ

/-- A field whose value is put into the section by `set`. -/
def Field.of {σ α : Type} (name : String) (required : Bool) (decode : Decoder α)
    (set : σ → α → σ) : Field σ where
  name := name
  required := required
  take value s := (decode value).map (set s)

/-- A kind of section. -/
structure Shape (σ : Type) where
  /-- What the kind is called. -/
  title : String
  /-- The section before any field is taken. -/
  blank : σ
  /-- The fields in order. -/
  fields : List (Field σ)

namespace Shape

variable {σ : Type}

/-- The kind as a fault names it. -/
def expected (shape : Shape σ) : String := s!"struct {shape.title}"

/-- Takes the value of one key. -/
def takeEntry (shape : Shape σ) (s : σ) (key : String) (value : Value) :
    Except DecodeFault σ :=
  match shape.fields.find? (·.name = key) with
  | some field => field.take value s
  | none => if value.tooLarge then .error .numberTooLarge else .ok s

/-- The section that a table gives. -/
def ofEntries (shape : Shape σ) (entries : Entries) : Except DecodeFault σ := do
  let s ← entries.foldlM (fun s (key, value) => shape.takeEntry s key value) shape.blank
  match shape.fields.find? fun field => field.required && (entries.get? field.name).isNone with
  | some field => throw (.missing field.name)
  | none => return s

/-- The section that an array gives. -/
def ofItems (shape : Shape σ) (items : List Value) : Except DecodeFault σ := do
  let s ← (shape.fields.zip items).foldlM (fun s (field, value) => field.take value s) shape.blank
  if (shape.fields.drop items.length).any (·.required) then
    throw (.tooShort items.length s!"{shape.expected} with {shape.fields.length} elements")
  else return s

/-- The section that a value gives. A date counts as a table without known keys. -/
def decode (shape : Shape σ) : Decoder σ
  | .table _ entries => shape.ofEntries entries
  | .moment => shape.ofEntries []
  | .array _ items => shape.ofItems items
  | value => .error (unexpected shape.expected value)

end Shape

/-! ### The sections of a configuration -/

/-- The section about the tool. -/
def toolShape : Shape ToolSource where
  title := "RawToolSection"
  blank := ⟨[], none, defaultPort, defaultBindingName, [], defaultStartupTimeout,
    defaultReadinessTimeout⟩
  fields := [
    .of "executables" false (aList aPath) fun s paths => { s with executables := paths },
    .of "host" false aText fun s host => { s with host := some host },
    .of "port" false aPort fun s port => { s with port := port },
    .of "binding_name" false aText fun s name => { s with bindingName := name },
    .of "arguments" false (aList aText) fun s texts => { s with arguments := texts },
    .of "startup_timeout" false aText fun s text => { s with startupTimeout := text },
    .of "readiness_timeout" false aText fun s text => { s with readinessTimeout := text }]

/-- The section about the execution. -/
def executionShape : Shape Execution where
  title := "RawExecutionSection"
  blank := ⟨"", "", "", "", "", defaultTempTestSet, none, false⟩
  fields := [
    .of "project" true aPath fun s path => { s with project := path },
    .of "execution_config" true aText fun s name => { s with executionConfig := name },
    .of "test_case" true aText fun s name => { s with testCase := name },
    .of "data_dir" true aPath fun s path => { s with dataDir := path },
    .of "report_dir" true aPath fun s path => { s with reportDir := path },
    .of "temp_test_set" false aText fun s name => { s with tempTestSet := name },
    .of "artifact_dir" false aPath fun s path => { s with artifactDir := some path },
    .of "close_project" false aFlag fun s flag => { s with closeProject := flag }]

/-- A whole configuration. -/
def sourceShape : Shape Source where
  title := "RawConfigFile"
  blank := ⟨toolShape.blank, executionShape.blank⟩
  fields := [
    .of "tool" true toolShape.decode fun s tool => { s with tool := tool },
    .of "execution" true executionShape.decode fun s execution =>
      { s with execution := execution }]

/-- The configuration that a text gives. -/
def Source.ofText (text : String) : Except Failure Source :=
  match Toml.read text with
  | none => .error (.unreadableConfiguration none)
  | some entries => (sourceShape.ofEntries entries).mapError fun fault =>
    .unreadableConfiguration fault.message

end CaseRunner.Config
