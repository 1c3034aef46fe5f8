import CaseRunner.FilePath

/-!
# `CaseRunner.Connection.Command`: the command line that starts the tool

The tool is told at which port and under which name to register. On Linux it runs as a
server without a window. The arguments of the user come last.
-/

set_option autoImplicit false

namespace CaseRunner.Connection

/-- The family of operating systems. -/
inductive Platform where
  /-- Linux. -/
  | linux
  /-- Any other. -/
  | other
  deriving DecidableEq, Repr

/-- A program and its arguments. -/
structure Command where
  /-- The program. -/
  program : FilePath
  /-- The arguments, in order. -/
  arguments : List String
  deriving DecidableEq, Repr

namespace Command

/-- The command line that starts the tool. -/
def ofTool (program : FilePath) (port : Nat) (binding : String) (extra : List String)
    (platform : Platform) : Command where
  program := program
  arguments :=
    ["--apiPort", toString port, "--apiBindingName", binding]
      ++ (if platform = .linux then ["--run", "apiserver", "--headless"] else [])
      ++ extra

/-- An argument as it is shown: in quotation marks if it holds a space. -/
def shownArgument (argument : String) : String :=
  if argument.toList.contains ' ' then s!" \"{argument}\"" else s!" {argument}"

/-- The command line as it is shown. -/
def display (command : Command) : String :=
  String.join (command.program.text :: command.arguments.map shownArgument)

end Command

end CaseRunner.Connection
