/-
Ticks at regular intervals.

A tick is due one interval after the one before it was due.  It comes to someone who waits for
it, so it can come late.  A tick that is only a little late leaves the plan as it is; after one
that is later than that, the next tick is due one interval after it came.

Moments are the nanoseconds since the ticks began to be counted.
-/
import Lookout.Text.Duration

namespace Lookout

/-- A source of ticks. -/
structure Ticker where
  /-- The interval between two ticks, in nanoseconds. -/
  period : Nat
  period_pos : 0 < period
  /-- When the next tick is due. -/
  due : Nat

namespace Ticker

/-- How late a tick may come without a change of the plan: five milliseconds. -/
def tolerance : Nat := 5000000

/-- The ticker of an interval, the first tick of which is due at a moment.  No interval of ticks
is zero. -/
def every? (interval : Duration) (first : Nat) : Option Ticker :=
  if h : 0 < interval.nanoseconds then some ⟨interval.nanoseconds, h, first⟩ else none

/-- When the next tick comes to one who waits for it from a moment on. -/
def next (t : Ticker) (now : Nat) : Nat :=
  max now t.due

/-- The ticker after a tick that came at a moment. -/
def advance (t : Ticker) (came : Nat) : Ticker :=
  { t with due := (if t.due + tolerance < came then came else t.due) + t.period }

/-- Each tick is due later than the one before it. -/
theorem due_lt_due_advance (t : Ticker) (came : Nat) : t.due < (t.advance came).due := by
  have := t.period_pos
  simp only [advance]
  split <;> omega

end Ticker

end Lookout
