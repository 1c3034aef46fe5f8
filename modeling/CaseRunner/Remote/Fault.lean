/-!
# `CaseRunner.Remote.Fault`: how calls to the tool fail

A call to the tool either does not reach it or is refused by it. Looking the tool up in
the registry has failures of its own.
-/

set_option autoImplicit false

namespace CaseRunner.Remote

/-- Why a single remote call failed. -/
inductive RemoteFault where
  /-- The call did not reach the tool. -/
  | communication (text : String)
  /-- The tool refused the request. -/
  | api (text : String)
  deriving DecidableEq, Repr

/-- What the fault is called. -/
def RemoteFault.message : RemoteFault → String
  | .communication text => s!"remote call failed: {text}"
  | .api text => s!"API error: {text}"

/-- Why a lookup in the registry failed. -/
inductive LookupFault where
  /-- The registry answers, but nothing is bound under the name. -/
  | notBound (binding : String)
  /-- The registry does not answer. -/
  | unreachable (text : String)
  deriving DecidableEq, Repr

/-- What the fault is called. -/
def LookupFault.message : LookupFault → String
  | .notBound binding => s!"'{binding}' is not bound in the registry"
  | .unreachable text => s!"registry unreachable: {text}"

end CaseRunner.Remote
