/-
What an alert gathers during one cycle: its name, when the cycle started, and the result of
the query, which the condition may replace.
-/
import Lookout.Value.Basic
import Lookout.Time.Calendar

namespace Lookout

/-- The context of one cycle. -/
structure AlertContext where
  name : String
  /-- Start of the cycle, in seconds since 1970. -/
  startedTs : Nat
  result : Value

namespace AlertContext

/-- The last second that a calendar date is given for, in the year 262142. -/
def lastDatedSecond : Nat := 8210266876799

/-- The start as a date; a time past the calendar's end counts as 1970. -/
def startedAt (c : AlertContext) : String :=
  utcText (if c.startedTs ≤ lastDatedSecond then c.startedTs else 0)

/-- The seconds from the start to `now`; none when `now` lies before the start. -/
def elapsed (c : AlertContext) (now : Int) : Nat :=
  now.toNat - c.startedTs

/-- The context with another result. -/
def withResult (result : Value) (c : AlertContext) : AlertContext :=
  { c with result := result }

/-- Equality part by part. -/
def beq (a b : AlertContext) : Bool :=
  a.name == b.name && a.startedTs == b.startedTs && a.result == b.result

instance : BEq AlertContext := ⟨beq⟩

end AlertContext

end Lookout
