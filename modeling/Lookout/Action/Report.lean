/-
What became of the actions of one dispatch.

A report holds one outcome for each action, in the order of the alert's list.  From it come
the failures, their text, and the result of the whole.
-/
import Lookout.Action.Basic

namespace Lookout

/-- Why an action failed. -/
inductive ActionError where
  /-- The endpoint answered with a status outside 200..=299. -/
  | status (code : Nat)
  /-- No response came. -/
  | transport (reason : String)
  /-- No request could be made of the action's fields. -/
  | invalidRequest (reason : String)
  | webhookNotConfigured
  /-- A chat message without text. -/
  | missingText
deriving DecidableEq, Repr

/-- The message of a failed action. -/
def ActionError.message : ActionError → String
  | status code => "non 2xx response code returned: " ++ toString code
  | transport reason => "transport error: " ++ reason
  | invalidRequest reason => "invalid request: " ++ reason
  | webhookNotConfigured => "chat webhook endpoint not configured"
  | missingText => "missing required field: text"

/-- The outcome of one action, with its place in the alert's list. -/
structure ActionOutcome where
  index : Nat
  kind : ActionKind
  result : Except ActionError Unit

/-- A failed action, with its place in the alert's list. -/
structure ActionFailure where
  index : Nat
  kind : ActionKind
  error : ActionError
deriving DecidableEq, Repr

namespace ActionOutcome

/-- Whether the action succeeded. -/
def isOk (o : ActionOutcome) : Bool :=
  match o.result with
  | .ok _ => true
  | .error _ => false

/-- The failure, if the action failed. -/
def failure? (o : ActionOutcome) : Option ActionFailure :=
  match o.result with
  | .ok _ => none
  | .error e => some ⟨o.index, o.kind, e⟩

end ActionOutcome

namespace ActionFailure

/-- One failure in words. -/
def text (f : ActionFailure) : String :=
  "action " ++ toString f.index ++ " (" ++ f.kind.name ++ "): " ++ f.error.message

/-- The failures after the first, each behind a semicolon. -/
def moreText : List ActionFailure → String
  | [] => ""
  | f :: fs => "; " ++ f.text ++ moreText fs

/-- The failures of a dispatch in words: how many there are, then each of them. -/
def summary (failures : List ActionFailure) : String :=
  let count := toString failures.length ++ " action(s) failed"
  match failures with
  | [] => count
  | f :: fs => count ++ ": " ++ f.text ++ moreText fs

end ActionFailure

/-- The outcomes of all actions of a dispatch, in the order of the alert's list. -/
structure DispatchReport where
  outcomes : List ActionOutcome

namespace DispatchReport

/-- How many actions succeeded. -/
def succeeded (r : DispatchReport) : Nat :=
  r.outcomes.countP (·.isOk)

/-- The failed actions, in order. -/
def failures (r : DispatchReport) : List ActionFailure :=
  r.outcomes.filterMap (·.failure?)

/-- Whether every action succeeded. -/
def isSuccess (r : DispatchReport) : Bool :=
  r.outcomes.all (·.isOk)

/-- How many actions succeeded, or every failure. -/
def toResult (r : DispatchReport) : Except (List ActionFailure) Nat :=
  match r.failures with
  | [] => .ok r.succeeded
  | failures => .error failures

end DispatchReport

end Lookout
