import CaseRunner.Remote.Tool

/-!
# `CaseRunner.Isolation.Lookup`: finding things in the tool

Projects are opened and closed by their file. A configuration is found by its name, a test
case by its name in the tree: depth first, a group before what comes after it, and groups
are asked for their children only until the first match. A new test set gets a name that
no test set of the project has.
-/

set_option autoImplicit false

namespace CaseRunner.Isolation

open CaseRunner.Remote
open CaseRunner.Remote.Action

variable {σ : Type}

/-- Opens the project in a file. -/
def openProject (path : FilePath) : Action σ Failure ProjectRef := do
  note .info .project "opening TPT project" [("path", path.text)]
  let opened ← mapFailure .remote (openFile path)
  match opened.project with
  | some project => return project
  | none =>
    note .error .project "could not open project"
      [("path", path.text), ("logs", "\n".intercalate opened.logs)]
    throw (.projectNotOpened path opened.logs)

/-- Closes the first of the given projects that comes from a file. If there is none, the
project counts as closed. -/
def closeFirst (path : FilePath) : List ProjectRef → Action σ RemoteFault Unit
  | [] => note .info .project "project was already closed" [("path", path.text)]
  | project :: rest => do
    let file ← projectFile project
    if file.any (·.same path) then
      note .info .project "closing project" [("path", path.text)]
      Remote.closeProject project
    else
      closeFirst path rest

/-- Closes the open project that comes from a file. -/
def closeProject (path : FilePath) : Action σ RemoteFault Unit := do
  closeFirst path (← openProjects)

/-- The first of the given configurations that has a name. -/
def firstNamed (name : String) : List ConfigRef → Action σ RemoteFault (Option ConfigRef)
  | [] => return none
  | config :: rest => do
    if (← configName config) = name then return some config
    firstNamed name rest

/-- The configuration of a project that has a name. -/
def configurationNamed (project : ProjectRef) (name : String) :
    Action σ RemoteFault (Option ConfigRef) := do
  firstNamed name (← configurations project)

mutual

/-- The first test case of a name in a part of the tree. -/
def findInTree (name : String) : CaseTree → Action σ RemoteFault (Option TestCase)
  | .leaf testCase => do
    return if (← caseName testCase) = name then some testCase else none
  | .group label number children => do
    let _ ← groupItems ⟨number, label⟩ children
    findInForest name children

/-- The first test case of a name in parts of the tree. -/
def findInForest (name : String) : List CaseTree → Action σ RemoteFault (Option TestCase)
  | [] => return none
  | tree :: rest => do
    match ← findInTree name tree with
    | some testCase => return some testCase
    | none => findInForest name rest

end

/-- The test case of a project that has a name. -/
def caseNamed (project : ProjectRef) (name : String) : Action σ RemoteFault (Option TestCase) := do
  findInForest name (← topLevel project)

/-- The names that are tried one after the other: the base, then the base with a number. -/
def candidate (base : String) (index : Nat) : String :=
  if index = 0 then base else s!"{base} {index + 1}"

/-- The first candidate from `index` on that is not taken, of at most `count`. -/
def firstFree (taken : List String) (base : String) (index : Nat) : Nat → String
  | 0 => candidate base index
  | count + 1 =>
    if candidate base index ∈ taken then firstFree taken base (index + 1) count
    else candidate base index

/-- The first candidate that is not taken. Of the candidates there is one more than there
are names that can be taken. -/
def freeName (taken : List String) (base : String) : String := firstFree taken base 0 taken.length

/-- A name for a new test set of a project. -/
def uniqueTestSetName (project : ProjectRef) (base : String) : Action σ RemoteFault String := do
  let sets ← testSets project
  return freeName (← sets.mapM setName) base

/-- The name of a part of the tree as it is shown, if the tool tells it. -/
def shownTree : CaseTree → Action σ RemoteFault String
  | .leaf testCase => do return shown "Scenario" (← attempt (caseName testCase))
  | .group label number _ => do return shown "Group" (← attempt (groupName ⟨number, label⟩))
where
  /-- A kind and a name. -/
  shown (kind : String) : Except RemoteFault String → String
    | .ok name => s!"{kind}({Text.quoted name})"
    | .error _ => s!"{kind}(<unavailable>)"

/-- The top of the tree of test cases as it is shown. -/
def shownTopLevel (project : ProjectRef) : Action σ RemoteFault String := do
  return Text.bracketed (← (← topLevel project).mapM shownTree)

end CaseRunner.Isolation
