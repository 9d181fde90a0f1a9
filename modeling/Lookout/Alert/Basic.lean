/-
Alerts, and what makes one valid.

An alert is built from its parts, and the building checks them in a fixed order.  What was
built has a trimmed name, an interval that is not zero, an index and a condition that are not
blank, and a condition that can be read as a script.
-/
import Lookout.Action.Basic
import Lookout.Error.Kind
import Lookout.Script.Interpreter
import Lookout.Search.Query
import Lookout.Text.Blank
import Lookout.Text.Duration

namespace Lookout

/-- An alert: a query that runs every interval, a condition on its result, and the actions to
take when the condition holds. -/
structure AlertDefinition where
  name : String
  /-- Seconds between two cycles. -/
  intervalSecs : Nat
  search : QuerySpec
  /-- The source of the condition script. -/
  condition : String
  actions : List Action

/-- What is wrong with the parts of an alert, apart from its name. -/
inductive AlertFault where
  | intervalZero
  | indexBlank
  | conditionBlank
  | conditionUnreadable (f : Script.SyntaxFault)
deriving DecidableEq, Repr

/-- A fault in words. -/
def AlertFault.reason : AlertFault → String
  | intervalZero => "interval_secs must be greater than 0"
  | indexBlank => "search.index cannot be empty"
  | conditionBlank => "condition cannot be empty"
  | conditionUnreadable f =>
    "condition does not parse: " ++ ErrorKind.script.message (Script.Trouble.unreadable f).message

/-- Why parts do not make an alert. -/
inductive BuildError where
  | nameEmpty
  | nameTooLong
  | invalid (name : String) (fault : AlertFault)
deriving DecidableEq, Repr

namespace AlertDefinition

/-- The greatest length of a name, in bytes. -/
def maxNameLength : Nat := 256

/-- The seconds between two cycles of an alert that does not tell. -/
def defaultIntervalSecs : Nat := 60

/-- The time between two cycles. -/
def interval (a : AlertDefinition) : Duration :=
  .ofSeconds a.intervalSecs

/-- Equality part by part. -/
def beq (a b : AlertDefinition) : Bool :=
  a.name == b.name && a.intervalSecs == b.intervalSecs && a.search == b.search
    && a.condition == b.condition && a.actions == b.actions

instance : BEq AlertDefinition := ⟨beq⟩

/-- The first fault of the parts of an alert. -/
def fault? (a : AlertDefinition) : Option AlertFault :=
  if a.intervalSecs = 0 then some .intervalZero
  else if Text.isAllBlank a.search.index then some .indexBlank
  else if Text.isAllBlank a.condition then some .conditionBlank
  else match Script.parse a.condition with
    | .ok _ => none
    | .error f => some (.conditionUnreadable f)

/-- The alert with its name trimmed, if its parts are valid. -/
def build (a : AlertDefinition) : Except BuildError AlertDefinition :=
  let name := Text.stripBlanks a.name
  if name.isEmpty then .error .nameEmpty
  else if maxNameLength < name.utf8ByteSize then .error .nameTooLong
  else match a.fault? with
    | some fault => .error (.invalid name fault)
    | none => .ok { a with name := name }

end AlertDefinition

/-- The reason in words. -/
def BuildError.reason : BuildError → String
  | nameEmpty => "alert name cannot be empty"
  | nameTooLong =>
    "alert name exceeds " ++ toString AlertDefinition.maxNameLength ++ " characters"
  | invalid name fault => "alert " ++ quoted name ++ ": " ++ fault.reason

end Lookout
