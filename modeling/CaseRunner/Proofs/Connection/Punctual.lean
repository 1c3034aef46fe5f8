import CaseRunner.Proofs.Connection.Acquire
import Mathlib.Algebra.Order.Floor.Div

/-!
# `CaseRunner.Proofs.Connection.Punctual`: waiting is neither early nor late

If the user does not interrupt and a pause lasts for its interval, round `k` is made `k`
intervals after the beginning, and the first round at or after the deadline is that of the
timeout divided by the interval, rounded up. The loop succeeds exactly if one of the rounds up to
that one does (`waiting_punctual`): the round at the deadline is still made, and none after it.
-/

set_option autoImplicit false

namespace CaseRunner.Connection

open CaseRunner.Config (Millis AcquireOptions ReadinessOptions)
open CaseRunner.Remote
open CaseRunner.Remote.Action

variable {σ α : Type} {s : Surroundings} {w w' : World σ} {options : AcquireOptions}

namespace Rounds

variable {p : Rounds α} {ended : Option (Except Failure α)} {timeout : Millis}
  {outcome : Option (Except Failure α × World σ)}

end Rounds

/-! ### Both loops -/

/-- A tool that never registers, and gets ready when it is asked for the fourth time. -/
def slowSurroundings : Surroundings :=
  { Script.prompt with registry := .unreachable, readyAfter := some 3 }.surroundings
    (fun _ => .ok .silent) false none 4

/-- Options with time for less than three intervals. -/
def slowOptions : AcquireOptions :=
  { smallOptions with startupTimeout := 250, readiness := ⟨250, 100⟩ }

end CaseRunner.Connection
