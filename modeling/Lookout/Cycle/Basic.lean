/-
How a cycle of an alert can end.

A cycle asks the search backend, puts the condition to the answer, and takes the alert's actions
if the condition holds.  A failure of an action is told by the report; a failure of anything
before the actions, or a deadline that passes, is the failure of the cycle.
-/
import Lookout.Action.Report
import Lookout.Error.Kind
import Lookout.Pool.Basic
import Lookout.Search.Client

namespace Lookout

/-- Why a cycle failed. -/
inductive CycleError where
  | query (e : QueryError)
  | script (e : EvalError)
  /-- The deadline, counted from the start of the cycle, passed. -/
  | timeout (after : Duration)
deriving DecidableEq, Repr

namespace CycleError

/-- The kind of the error. -/
def kind : CycleError → ErrorKind
  | query _ => .query
  | script _ => .script
  | timeout _ => .timeout

/-- The reason in words. -/
def reason : CycleError → String
  | query e => e.reason
  | script e => e.reason
  | timeout after => after.text

/-- The message of the error. -/
def message (e : CycleError) : String :=
  e.kind.message e.reason

end CycleError

/-- How a cycle ended. -/
inductive CycleOutcome where
  /-- The condition does not hold. -/
  | noMatch
  /-- The condition holds, and the actions were taken. -/
  | matched (report : DispatchReport)
  | failed (e : CycleError)

namespace CycleOutcome

/-- Whether the condition held. -/
def isMatch : CycleOutcome → Bool
  | matched _ => true
  | _ => false

/-- Whether the cycle failed. -/
def isFailure : CycleOutcome → Bool
  | failed _ => true
  | _ => false

/-- What became of the actions, if they were taken. -/
def report? : CycleOutcome → Option DispatchReport
  | matched report => some report
  | _ => none

end CycleOutcome

end Lookout
