/-
The task that runs the cycles of one alert.

A task waits for a tick, runs a cycle, and waits again.  It is told to stop by a shutdown, which
it looks for whenever it waits, and always before it looks for a tick.  A cycle that runs when
the shutdown comes still runs to its end.

What a task does is a sequence of events; `step?` says which of them is possible when.  Left to
itself, with nothing but the lengths of its cycles and the moment of the shutdown given, the
task goes through one such sequence: `run`.
-/
import Lookout.Cycle.Basic
import Lookout.Schedule.Ticker

namespace Lookout

/-- What a task is doing. -/
inductive TaskPhase where
  | waiting
  /-- A cycle runs since a moment. -/
  | running (since : Nat)
  /-- It stopped at a moment. -/
  | stopped (moment : Nat)
deriving DecidableEq, Repr

/-- A cycle that a task ran. -/
structure TaskCycle where
  start : Nat
  finish : Nat
  outcome : CycleOutcome

/-- The task of an alert. -/
structure AlertTask where
  ticker : Ticker
  phase : TaskPhase
  /-- Whether it has been told to stop. -/
  shutdown : Bool
  /-- How many cycles it has started. -/
  started : Nat
  /-- How many cycles it has run to their end: what it answers when it stops. -/
  cycles : Nat
  /-- The cycles that it has run to their end, the last one first. -/
  history : List TaskCycle

/-- What can happen to a task. -/
inductive TaskEvent where
  /-- It is told to stop. -/
  | shutdown
  /-- While it waits, it looks at a moment for the shutdown and then for a tick. -/
  | wake (now : Nat)
  /-- Its cycle ends at a moment. -/
  | finish (now : Nat) (outcome : CycleOutcome)

namespace AlertTask

/-- A task that has not run a cycle yet. -/
def new (ticker : Ticker) : AlertTask :=
  { ticker, phase := .waiting, shutdown := false, started := 0, cycles := 0, history := [] }

/-- The task told to stop. -/
def cancel (t : AlertTask) : AlertTask :=
  { t with shutdown := true }

/-- The task stopped. -/
def stop (t : AlertTask) (now : Nat) : AlertTask :=
  { t with phase := .stopped now }

/-- The task with a cycle started by a tick. -/
def start (t : AlertTask) (now : Nat) : AlertTask :=
  { t with ticker := t.ticker.advance now, phase := .running now, started := t.started + 1 }

/-- The task with its cycle at an end. -/
def finish (t : AlertTask) (since now : Nat) (outcome : CycleOutcome) : AlertTask :=
  { t with
    phase := .waiting
    cycles := t.cycles + 1
    history := ⟨since, now, outcome⟩ :: t.history }

/-- The task after an event, if the event is possible. -/
def step? (t : AlertTask) : TaskEvent → Option AlertTask
  | .shutdown => some t.cancel
  | .wake now =>
    match t.phase with
    | .waiting =>
      if t.shutdown then some (t.stop now)
      else if t.ticker.due ≤ now then some (t.start now)
      else none
    | _ => none
  | .finish now outcome =>
    match t.phase with
    | .running since => if since ≤ now then some (t.finish since now outcome) else none
    | _ => none

/-- The task after events, if they are possible one after the other. -/
def steps? (t : AlertTask) (es : List TaskEvent) : Option AlertTask :=
  es.foldlM step? t

/-- How long a cycle takes, and how it ends. -/
structure CycleLength where
  took : Duration
  outcome : CycleOutcome

/-- What a waiting task does from a moment on, until it has stopped.  `cycle n` is the cycle
that `n` others come before, and the shutdown comes at a moment. -/
def run (cycle : Nat → CycleLength) (shutdown now : Nat) (t : AlertTask) : AlertTask :=
  let tick := t.ticker.next now
  if shutdown ≤ tick then t.cancel.stop (max now shutdown)
  else
    let c := cycle t.started
    let ended := tick + c.took.nanoseconds
    ((t.start tick).finish tick ended c.outcome).run cycle shutdown ended
termination_by shutdown - t.ticker.due
decreasing_by
  have later := t.ticker.due_lt_due_advance (t.ticker.next now)
  have reached : t.ticker.due ≤ t.ticker.next now := Nat.le_max_right ..
  simp only [start, finish]
  omega

/-- When a task stopped, if it did. -/
def stoppedAt? (t : AlertTask) : Option Nat :=
  match t.phase with
  | .stopped now => some now
  | _ => none

end AlertTask

end Lookout
