import CaseRunner.Connection.Drain
import CaseRunner.Text.Numeral

/-!
# `CaseRunner.Connection.Shell`: a shell for rehearsals

The launcher can start any program. In rehearsals a small shell stands in for them, and this is
what a script in it writes.

A script is a list of simple commands, each carried out depending on whether the one
before it succeeded, and of loops over words. Words may be quoted and may hold parameters.
The commands known here write to the two output streams and find nothing to read, so what
a script writes depends on its text and its parameters alone.

`commands` reads a script, and `run` carries it out.
-/

set_option autoImplicit false

namespace CaseRunner.Connection.Shell

/-! ### Reading a script -/

/-- A part of a word. -/
inductive Piece where
  /-- Characters that stand for themselves. -/
  | text (chars : List Char)
  /-- A parameter; outside quotation marks its value is cut into words. -/
  | parameter (name : List Char) (quoted : Bool)
  deriving DecidableEq, Repr

/-- When the next command is carried out. -/
inductive Condition where
  /-- Always. -/
  | always
  /-- If the command before it succeeded. -/
  | afterSuccess
  /-- If the command before it failed. -/
  | afterFailure
  deriving DecidableEq, Repr

/-- A part of a script. -/
inductive Token where
  /-- A word. -/
  | word (pieces : List Piece)
  /-- The output of a stream goes to what the next word names, or to another stream. -/
  | redirect (stream : OutputStream) (target : Option OutputStream)
  /-- The end of a command. -/
  | next (condition : Condition)
  deriving DecidableEq, Repr

/-- Whether the character may stand in the name of a parameter. -/
def isNameChar (c : Char) : Bool := c.isAlphanum || c = '_'

/-- The name of a parameter after a dollar sign, and the characters after it. -/
def parameterName : List Char → Option (List Char × List Char)
  | '\x7b' :: rest =>
    let name := rest.takeWhile (· ≠ '\x7d')
    some (name, rest.drop (name.length + 1))
  | c :: rest =>
    if c.isDigit || c = '#' || c = '?' || c = '@' || c = '*' then some ([c], rest)
    else if isNameChar c then
      let name := (c :: rest).takeWhile isNameChar
      some (name, (c :: rest).drop name.length)
    else none
  | [] => none

/-- The marks that a place in a script is within. -/
inductive Marks where
  /-- No marks. -/
  | none
  /-- Single marks, in which every character stands for itself. -/
  | single
  /-- Double marks, in which parameters have values. -/
  | double
  deriving DecidableEq, Repr

/-- Adds a character to a word. -/
def addChar (c : Char) (word : Option (List Piece)) : Option (List Piece) :=
  some (word.getD [] ++ [.text [c]])

/-- The word under way, if any, as a token. -/
def endWord (word : Option (List Piece)) : List Token := (word.map Token.word).toList

/-- The stream that a sign of redirection is about: the one whose number is the word
before it, or else the ordinary output. -/
def streamOf (word : Option (List Piece)) : OutputStream × List Token :=
  if word = some [.text ['2']] then (.stderr, [])
  else if word = some [.text ['1']] then (.stdout, [])
  else (.stdout, endWord word)

/-- The tokens of at most `count` steps through a script, with a word under way. -/
def tokens (marks : Marks) (word : Option (List Piece)) : Nat → List Char → List Token
  | 0, _ => endWord word
  | _, [] => endWord word
  | count + 1, c :: rest =>
    match marks with
    | .single =>
      if c = '\'' then tokens .none word count rest
      else tokens .single (addChar c word) count rest
    | .double =>
      match c, rest with
      | '"', _ => tokens .none word count rest
      | '\\', d :: rest =>
        if d = '"' || d = '\\' || d = '$' then tokens .double (addChar d word) count rest
        else tokens .double (addChar d (addChar c word)) count rest
      | '$', _ =>
        match parameterName rest with
        | some (name, rest) =>
          tokens .double (some (word.getD [] ++ [.parameter name true])) count rest
        | .none => tokens .double (addChar c word) count rest
      | _, _ => tokens .double (addChar c word) count rest
    | .none =>
      match c, rest with
      | '\'', _ => tokens .single (some (word.getD [])) count rest
      | '"', _ => tokens .double (some (word.getD [])) count rest
      | '\\', d :: rest => tokens .none (addChar d word) count rest
      | '&', '&' :: rest => endWord word ++ .next .afterSuccess :: tokens .none .none count rest
      | '|', '|' :: rest => endWord word ++ .next .afterFailure :: tokens .none .none count rest
      | '>', '&' :: d :: rest =>
        let (stream, before) := streamOf word
        before ++ .redirect stream (some (if d = '2' then .stderr else .stdout))
          :: tokens .none .none count rest
      | '>', _ =>
        let (stream, before) := streamOf word
        before ++ .redirect stream .none :: tokens .none .none count rest
      | '$', _ =>
        match parameterName rest with
        | some (name, rest) =>
          tokens .none (some (word.getD [] ++ [.parameter name false])) count rest
        | .none => tokens .none (addChar c word) count rest
      | _, _ =>
        if c = ' ' || c = '\t' then endWord word ++ tokens .none .none count rest
        else if c = ';' || c = '\n' then
          endWord word ++ .next .always :: tokens .none .none count rest
        else if c = '#' && word.isNone then
          tokens .none .none count (rest.dropWhile (· ≠ '\n'))
        else tokens .none (addChar c word) count rest

/-- A command. -/
structure Simple where
  /-- When it is carried out. -/
  condition : Condition
  /-- Its words. -/
  words : List (List Piece)
  /-- Where streams go to, in order; nowhere, if no stream is given. -/
  redirects : List (OutputStream × Option OutputStream)
  deriving DecidableEq, Repr

/-- Cuts tokens into commands, the first of which is carried out under a condition. -/
def commandsFrom (condition : Condition) : List Token → List Simple
  | [] => [⟨condition, [], []⟩]
  | .next following :: rest => ⟨condition, [], []⟩ :: commandsFrom following rest
  | .redirect stream none :: .word _ :: rest =>
    match commandsFrom condition rest with
    | first :: others => { first with redirects := (stream, none) :: first.redirects } :: others
    | [] => []
  | .redirect stream target :: rest =>
    match commandsFrom condition rest with
    | first :: others => { first with redirects := (stream, target) :: first.redirects } :: others
    | [] => []
  | .word pieces :: rest =>
    match commandsFrom condition rest with
    | first :: others => { first with words := pieces :: first.words } :: others
    | [] => []

/-- The commands of a script. -/
def commands (script : List Char) : List Simple :=
  commandsFrom .always (tokens .none none (script.length + 1) script)

/-! ### Carrying a script out -/

/-- Where a script stands. -/
structure State where
  /-- The name of the script and its parameters. -/
  parameters : List (List Char)
  /-- The variables that were set, the last one first. -/
  bindings : List (List Char × List Char)
  /-- Whether the last command succeeded. -/
  status : Nat
  /-- What was written to the ordinary output. -/
  stdout : Bytes
  /-- What was written to the error output. -/
  stderr : Bytes
  /-- Whether the script has ended. -/
  ended : Bool
  deriving DecidableEq, Repr

/-- The values of a parameter. -/
def State.valuesOf (s : State) (name : List Char) : List (List Char) :=
  let digits (n : Nat) : List (List Char) := [(toString n).toList]
  if name = ['#'] then digits (s.parameters.length - 1)
  else if name = ['?'] then digits s.status
  else if name = ['@'] ∨ name = ['*'] then s.parameters.drop 1
  else
    match Text.readNatural 10 Text.maxWord name with
    | .ok n => (s.parameters[n]?).toList
    | .error _ => (s.bindings.lookup name).toList

/-- Puts characters at the end of the last of some words; `fresh` begins a new one. -/
def extend (words : List (List Char)) (fresh : Bool) (chars : List Char) : List (List Char) :=
  match fresh, words.reverse with
  | false, last :: others => (others.reverse) ++ [last ++ chars]
  | _, _ => words ++ [chars]

/-- The parts of a text between blanks. -/
def splitBlank (text : List Char) : List (List Char) :=
  ((text.foldr (fun c (parts : List (List Char)) =>
    if c = ' ' ∨ c = '\t' ∨ c = '\n' then [] :: parts
    else
      match parts with
      | [] => [[c]]
      | part :: others => (c :: part) :: others) [[]])).filter (!·.isEmpty)

/-- The words that a word stands for. -/
def State.expand (s : State) (pieces : List Piece) : List (List Char) :=
  let quotedEmpty := pieces.isEmpty
  let step (words : List (List Char)) : Piece → List (List Char)
    | .text chars => extend words false chars
    | .parameter name true =>
      if name = ['@'] then
        match s.valuesOf name with
        | [] => words
        | first :: others => extend words false first ++ others
      else extend words false ([' '].intercalate (s.valuesOf name))
    | .parameter name false =>
      match (s.valuesOf name).flatMap splitBlank with
      | [] => words
      | first :: others => extend words false first ++ others
  if quotedEmpty then [[]] else pieces.foldl step []

/-- An escape of a letter in a text that is printed. -/
def escapeOf (c : Char) : Option UInt8 :=
  [('a', 7), ('b', 8), ('f', 12), ('n', 10), ('r', 13), ('t', 9), ('v', 11), ('\\', 92)].lookup c

/-- The bytes of a text with its escapes replaced. Up to three digits to the base eight
are a byte; they stand after a zero, if `zero`. -/
def unescape (zero : Bool) : Nat → List Char → Bytes
  | 0, _ => []
  | _, [] => []
  | count + 1, '\\' :: c :: rest =>
    let digits := if zero then rest else c :: rest
    let octal := (digits.take 3).takeWhile fun d => '0' ≤ d && d ≤ '7'
    if (zero && c = '0') || (!zero && !octal.isEmpty) then
      let value := octal.foldl (fun n d => n * 8 + (d.toNat - '0'.toNat)) 0
      value.toUInt8 :: unescape zero count (digits.drop octal.length)
    else
      match escapeOf c with
      | some b => b :: unescape zero count rest
      | none => Text.encode ['\\', c] ++ unescape zero count rest
  | count + 1, c :: rest => Text.encode [c] ++ unescape zero count rest

/-- A text with the arguments in it; an argument is missing where there are no more. -/
def format (arguments : List (List Char)) : Nat → List Char → Bytes × List (List Char)
  | 0, _ => ([], arguments)
  | _, [] => ([], arguments)
  | count + 1, '%' :: '%' :: rest =>
    let (bytes, left) := format arguments count rest
    (Text.encode ['%'] ++ bytes, left)
  | count + 1, '%' :: c :: rest =>
    let missing := if c = 'd' then ['0'] else []
    let (bytes, left) := format (arguments.drop 1) count rest
    (Text.encode ((arguments.head?).getD missing) ++ bytes, left)
  | count + 1, text =>
    let plain := text.takeWhile (· ≠ '%')
    let (bytes, left) := format arguments count (text.drop plain.length)
    (unescape false (plain.length + 1) plain ++ bytes, left)

/-- A text with the arguments in it, as often as there are arguments left. -/
def formatAll (pattern : List Char) : Nat → List (List Char) → Bytes
  | 0, _ => []
  | count + 1, arguments =>
    let (bytes, left) := format arguments (pattern.length + 1) pattern
    if left.isEmpty || left.length = arguments.length then bytes
    else bytes ++ formatAll pattern count left

/-- Where a stream of a command goes to. -/
def destination (stream : OutputStream) (redirects : List (OutputStream × Option OutputStream)) :
    Option OutputStream :=
  let initial : Option OutputStream × Option OutputStream := (some .stdout, some .stderr)
  let (out, error) := redirects.foldl (fun (out, error) (source, target) =>
    let now := match target with
      | some .stdout => out
      | some .stderr => error
      | none => none
    match source with
    | .stdout => (now, error)
    | .stderr => (out, now)) initial
  match stream with
  | .stdout => out
  | .stderr => error

/-- Writes to where a stream of a command goes to. -/
def State.write (s : State) (command : Simple) (stream : OutputStream) (bytes : Bytes) : State :=
  match destination stream command.redirects with
  | some .stdout => { s with stdout := s.stdout ++ bytes }
  | some .stderr => { s with stderr := s.stderr ++ bytes }
  | none => s

/-- Carries out one command with its words. -/
def State.perform (s : State) (command : Simple) : List String → State
  | [] => s
  | name :: arguments =>
    let done (status : Nat) (s : State) : State := { s with status := status }
    match name, arguments with
    | "echo", _ =>
      let (plain, words) := if arguments.head? = some "-n" then (true, arguments.drop 1)
        else (false, arguments)
      let text := (" ".intercalate words).toList
      let bytes := unescape true (text.length + 1) text ++ if plain then [] else [10]
      done 0 (s.write command .stdout bytes)
    | "printf", pattern :: arguments =>
      let bytes := formatAll pattern.toList (arguments.length + 1) (arguments.map String.toList)
      done 0 (s.write command .stdout bytes)
    | "exit", _ =>
      { s with status := (arguments.head?.bind String.toNat?).getD s.status, ended := true }
    | "false", _ => done 1 s
    | _, _ =>
      let assigned := name.toList.takeWhile isNameChar
      if [":", "true", "cat", "sleep"].contains name then done 0 s
      else if name = "read" then done 1 s
      else if !assigned.isEmpty && (name.toList.drop assigned.length).head? = some '=' then
        done 0 { s with
          bindings := (assigned, name.toList.drop (assigned.length + 1)) :: s.bindings }
      else
        let script := String.ofList (s.parameters.headD [])
        done 127 (s.write command .stderr (Text.utf8 s!"{script}: 1: {name}: not found\n"))

/-- Whether a command is carried out after what came before. -/
def State.isDue (s : State) (condition : Condition) : Bool :=
  !s.ended && match condition with
    | .always => true
    | .afterSuccess => s.status = 0
    | .afterFailure => s.status ≠ 0

/-- The words that the words of a command stand for. -/
def State.expandAll (s : State) (words : List (List Piece)) : List (List Char) :=
  words.flatMap s.expand

/-- Carries out one command if its condition is met. -/
def State.step (s : State) (command : Simple) : State :=
  if s.isDue command.condition then
    s.perform command ((s.expandAll command.words).map String.ofList)
  else s

/-- The characters of a word that stand for themselves, and none for a parameter. -/
def literal (pieces : List Piece) : List Char :=
  pieces.flatMap fun
    | .text chars => chars
    | .parameter _ _ => []

/-- Whether a command begins with a word. -/
def Simple.beginsWith (command : Simple) (word : String) : Bool :=
  (command.words.head?.map literal) = some word.toList

/-- A command without the word `do` that opens the body of a loop. -/
def Simple.withoutOpening (command : Simple) : Simple :=
  if command.beginsWith "do" then { command with words := command.words.drop 1 } else command

/-- Cuts commands at the end of the loop they are in, inside of which `depth` others are
open; the commands after it, and where the loop's output goes to. -/
def cutLoop (depth : Nat) :
    List Simple → List Simple × List (OutputStream × Option OutputStream) × List Simple
  | [] => ([], [], [])
  | c :: rest =>
    if c.beginsWith "done" && depth = 0 then ([], c.redirects, rest)
    else
      let inner := if c.beginsWith "done" then depth - 1
        else if c.withoutOpening.beginsWith "for" then depth + 1 else depth
      let (body, redirects, after) := cutLoop inner rest
      (c :: body, redirects, after)

/-- Carries out at most `count` commands in a row, loops as often as they have words. -/
def carryOut : Nat → List Simple → State → State
  | 0, _, s => s
  | _, [], s => s
  | count + 1, c :: rest, s =>
    if c.beginsWith "for" then
      let (body, redirects, after) := cutLoop 0 rest
      let body := body.map fun b =>
        { b.withoutOpening with redirects := redirects ++ b.redirects }
      let name := (c.words[1]?.map literal).getD []
      let values := if c.words.length < 3 then s.parameters.drop 1
        else s.expandAll (c.words.drop 3)
      let looped := if s.isDue c.condition then
          values.foldl (fun s value =>
            carryOut count body { s with bindings := (name, value) :: s.bindings })
            { s with status := 0 }
        else s
      carryOut count after looped
    else carryOut count rest (s.step c)

/-- Carries a script out. -/
def run (script : String) (parameters : List String) : State :=
  let commands := commands script.toList
  carryOut commands.length commands ⟨parameters.map String.toList, [], 0, [], [], false⟩

end CaseRunner.Connection.Shell
