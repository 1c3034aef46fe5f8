import CaseRunner.Remote.Tool

/-!
# `CaseRunner.Remote.Rehearsal`: a tool that behaves as a script says

A script says in a few numbers how the registry and the tool behave: how often a lookup
misses, when the tool gets ready, how long a run goes on. It also says which calls fail.
An interception keeps some of the calls to a point from reaching the tool. A limit lets
the tool grant so many requests of a kind and refuse all later ones.

All numbers count calls in the history, so a script is a set of `Surroundings`.
-/

set_option autoImplicit false

namespace CaseRunner.Remote

/-- How the registry answers. -/
inductive RegistryScript where
  /-- The tool is not bound for the first lookups. -/
  | boundAfter (misses : Nat)
  /-- The registry never answers. -/
  | unreachable
  deriving DecidableEq, Repr

/-- Calls to a point that do not reach the tool. -/
structure Interception where
  /-- The point. -/
  point : String
  /-- How many calls get through first. -/
  after : Nat
  /-- How many calls then fail; all, if no number is given. -/
  times : Option Nat
  /-- Whether the fault is one of communication. -/
  communication : Bool
  deriving DecidableEq, Repr

/-- The fault of an intercepted call. -/
def Interception.fault (i : Interception) : RemoteFault :=
  if i.communication then .communication s!"fault at {i.point}" else .api s!"fault at {i.point}"

/-- A kind of request that the tool can limit. -/
inductive Limited where
  /-- Starting a run. -/
  | run
  /-- Creating a test set. -/
  | create
  /-- Deleting a test set. -/
  | delete
  /-- Asking for the top of the tree of test cases. -/
  | roots
  /-- Asking for the items of a configuration, which starting a run does too. -/
  | items (config : String)
  /-- Setting the data directory of a configuration. -/
  | dataDir (config : String)
  /-- Setting the report directory of a configuration. -/
  | reportDir (config : String)
  /-- Setting the test set of an item. -/
  | item (config : String) (index : Nat)
  deriving DecidableEq, Repr

/-- What a refused request is called. -/
def Limited.name : Limited → String
  | .run => "run"
  | .create => "create test set"
  | .delete => "delete test set"
  | .roots => "top level scenarios"
  | .items _ => "configuration items"
  | .dataDir _ => "set data dir"
  | .reportDir _ => "set report dir"
  | .item .. => "set test set"

/-- The fault of a refused request. -/
def Limited.fault (kind : Limited) : RemoteFault := .api s!"injected failure: {kind.name}"

/-- The kinds of request that a call makes, in order. -/
def Limited.ofCall : Call → List Limited
  | .run c => [.run, .items c.name]
  | .createTestSet .. => [.create]
  | .deleteTestSet .. => [.delete]
  | .topLevel _ => [.roots]
  | .items c => [.items c.name]
  | .setDataDir c _ => [.dataDir c.name]
  | .setReportDir c _ => [.reportDir c.name]
  | .setTestSet i _ => [.item i.config.name i.index]
  | _ => []

/-- Whether a call that was made has used up one request of a kind. A run that is refused
does not ask for items. -/
def Limited.usedBy (kind : Limited) (record : CallRecord) : Bool :=
  record.verdict.reached && (Limited.ofCall record.call).contains kind
    && !(kind ≠ .run && record.verdict = .refused Limited.run.fault)

/-- How the registry and the tool behave. -/
structure Script where
  /-- How the registry answers. -/
  registry : RegistryScript
  /-- How many times the tool is not ready; for ever, if no number is given. -/
  readyAfter : Option Nat
  /-- How many of the first questions whether the tool is ready fail. -/
  failingProbes : Nat
  /-- The version, if the tool tells it. -/
  version : Option String
  /-- How many times a run is running; for ever, if no number is given. -/
  runningPolls : Option Nat
  /-- How many times any run is pending. -/
  pendingPolls : Nat
  /-- The files that can be opened, and the numbers of the projects. -/
  openable : List (FilePath × Nat)
  /-- What the tool says when it cannot open a file. -/
  openLogs : List String
  /-- What a run writes when it starts. -/
  products : List Product
  /-- The calls that do not reach the tool. -/
  interceptions : List Interception
  /-- The limits of the tool. -/
  limits : List (Limited × Nat)

namespace Script

/-- A registry and a tool that do what they are asked at once. -/
def prompt : Script where
  registry := .boundAfter 0
  readyAfter := some 0
  failingProbes := 0
  version := some "TPT 19"
  runningPolls := some 0
  pendingPolls := 0
  openable := []
  openLogs := []
  products := []
  interceptions := []
  limits := []

/-- The interception that concerns a call: the one of its point before the one of its
general point. -/
def interceptionOf (script : Script) (call : Call) : Option Interception :=
  (script.interceptions.find? (·.point = call.point))
    <|> script.interceptions.find? (·.point = call.generalPoint)

/-- Whether an interception concerns a call, given a call that it does concern. -/
def concerns (script : Script) (i : Interception) (known call : Call) : Bool :=
  call = known || script.interceptionOf call = some i

/-- The fault of a call that is intercepted. -/
def intercept (script : Script) (history : History) (call : Call) : Option RemoteFault :=
  match script.interceptionOf call with
  | none => none
  | some i =>
    let before := history.countP fun record => script.concerns i call record.call
    if before < i.after then none
    else if i.times.all fun times => before < i.after + times then some i.fault
    else none

/-- The fault of a request that is over its limit. -/
def overLimit (script : Script) (history : History) (kind : Limited) : Option RemoteFault :=
  match script.limits.lookup kind with
  | none => none
  | some limit => if history.countP kind.usedBy < limit then none else some kind.fault

/-- The one tool of a script. -/
def tool : ToolRef := ⟨0⟩

/-- The fault of a call that the tool refuses. -/
def refuse (script : Script) (history : History) (call : Call) : Option RemoteFault :=
  let probes := history.countReached (· = .isReady tool)
  if call = .isReady tool ∧ probes < script.failingProbes then
    some (.communication "connection reset")
  else if call = .version tool ∧ script.version = none then
    some (.communication "version unavailable")
  else (Limited.ofCall call).findSome? (script.overLimit history)

/-- What becomes of a call. -/
def verdict (script : Script) (history : History) (call : Call) : Verdict :=
  match script.intercept history call with
  | some fault => .lost fault
  | none =>
    match script.refuse history call with
    | some fault => .refused fault
    | none => .granted

/-- Whether a call looks the tool up. -/
def isLookup : Call → Bool
  | .lookup .. => true
  | _ => false

/-- How the registry answers a lookup. -/
def lookup (script : Script) (history : History) (host : String) (port : Nat)
    (binding : String) : Except LookupFault ToolRef :=
  match script.registry with
  | .unreachable => .error (.unreachable s!"connection refused: {host}:{port}")
  | .boundAfter misses =>
    if history.countReached isLookup < misses then .error (.notBound binding) else .ok tool

/-- Whether the tool says that it is ready. -/
def ready (script : Script) (history : History) (_tool : ToolRef) : Bool :=
  match script.readyAfter with
  | none => false
  | some count => count ≤ history.countReached (· = .isReady tool)

/-- Whether the tool says that a run is running. -/
def running (script : Script) (history : History) (run : Nat) : Bool :=
  let cancelled := history.countReached (· = .cancel run) ≠ 0
  let polls := history.countReached (· = .isRunning run)
  !cancelled && script.runningPolls.all (polls < ·)

/-- Whether a call asks if a run is pending. -/
def asksPending : Call → Bool
  | .isPending _ => true
  | _ => false

/-- Whether the tool says that a run is pending. -/
def pending (script : Script) (history : History) (_run : Nat) : Bool :=
  history.countReached asksPending < script.pendingPolls

/-- The surroundings that the script describes, with a launcher and a user. -/
def surroundings (script : Script)
    (launch : Connection.Command → Except Failure Connection.OutputPlan)
    (outputToJournal : Bool) (interruptAt : Option Config.Millis) (patience : Nat) :
    Surroundings where
  verdict := script.verdict
  registry := script.lookup
  ready := script.ready
  version := fun _ => script.version.getD ""
  openable := script.openable
  openLogs := script.openLogs
  running := script.running
  pending := script.pending
  products := script.products
  launch := launch
  outputToJournal := outputToJournal
  interruptAt := interruptAt
  patience := patience

end Script

/-! ### What the calls came to -/

namespace World

variable {σ : Type}

/-- How many times the tool was asked whether it is ready. -/
def probes (w : World σ) : Nat := w.calls.countReached (· = .isReady Script.tool)

/-- How many lookups the registry answered. -/
def lookups (w : World σ) : Nat := w.calls.countReached Script.isLookup

/-- Whether a call sets the test set of an item. -/
def setsItem (item : ItemRef) : Call → Bool
  | .setTestSet i _ => i = item
  | _ => false

/-- How many times the test set of an item was set. -/
def setCalls (w : World σ) (item : ItemRef) : Nat := w.calls.countReached (setsItem item)

/-- Whether the last run was cancelled, if there was a run. -/
def lastCancelled (w : World σ) : Option Bool :=
  if w.runs.isEmpty then none
  else some (w.calls.countReached (· = .cancel (w.runs.length - 1)) ≠ 0)

end World

end CaseRunner.Remote
