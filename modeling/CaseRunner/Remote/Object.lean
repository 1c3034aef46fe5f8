import CaseRunner.FilePath

/-!
# `CaseRunner.Remote.Object`: what the tool holds, as seen from outside

The program knows the objects of the tool by references. A reference says which object it
is, by a number, and what the object is called, so that calls to it can be shown.

Test cases form a tree whose inner nodes are groups. The tool gives out the tree piece by
piece: the children of a group are known only after asking for them.
-/

set_option autoImplicit false

namespace CaseRunner.Remote

/-- A tool that the registry has given out. -/
structure ToolRef where
  /-- Which tool it is. -/
  number : Nat
  deriving DecidableEq, Repr, Inhabited

/-- A test case. -/
structure TestCase where
  /-- The name. -/
  name : String
  /-- The identifier the tool gave it. -/
  id : String
  deriving DecidableEq, Repr

/-- A part of the tree of test cases. -/
inductive CaseTree where
  /-- A test case. -/
  | leaf (testCase : TestCase)
  /-- A group; the number tells groups of one name apart. -/
  | group (name : String) (number : Nat) (children : List CaseTree)
  deriving Repr, Inhabited

/-- A project that is open in the tool. -/
structure ProjectRef where
  /-- Which project it is. -/
  number : Nat
  /-- The file the project was loaded from. -/
  file : Option FilePath
  deriving DecidableEq, Repr

/-- An execution configuration of a project. -/
structure ConfigRef where
  /-- The project. -/
  project : ProjectRef
  /-- Which of its configurations it is. -/
  number : Nat
  /-- The name. -/
  name : String
  deriving DecidableEq, Repr

/-- An item of an execution configuration, which can have a test set. -/
structure ItemRef where
  /-- The configuration. -/
  config : ConfigRef
  /-- Which of its items it is. -/
  index : Nat
  deriving DecidableEq, Repr

/-- A test set. -/
structure TestSetRef where
  /-- Which test set it is. -/
  number : Nat
  /-- The name. -/
  name : String
  deriving DecidableEq, Repr

/-- A group of test cases. -/
structure GroupRef where
  /-- Which group it is. -/
  number : Nat
  /-- The name. -/
  name : String
  deriving DecidableEq, Repr

end CaseRunner.Remote
