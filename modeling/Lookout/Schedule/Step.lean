/-
The steps of the task of an alert, its cycles included.

A task shares the pool with others, who take steps on it at any time.  As long as none of its
cycles is on the way, the task looks for the shutdown and for a tick, and a tick starts a cycle on
the pool as it is.  From then on the cycle takes its steps, and only when it has ended does the
task look again.

A look at both, the shutdown and the tick, is one step: a shutdown that comes meanwhile comes
behind it.  The clock does not go back.
-/
import Lookout.Cycle.Step
import Lookout.Schedule.Task

namespace Lookout

/-- What a task runs all of its cycles with. -/
structure Routine where
  alert : AlertDefinition
  dispatcher : Dispatcher
  /-- The deadline of a cycle, counted from its start. -/
  timeout : Duration

/-- How a cycle at a stage has ended, if it has. -/
def Cycle.Stage.outcome? : Cycle.Stage → Option CycleOutcome
  | ended outcome => some outcome
  | _ => none

namespace Schedule

/-- What the cycles of a task are at. -/
inductive Work where
  /-- None of them is on its way. -/
  | idle (pool : Pool)
  | busy (cycle : CycleTask) (state : Cycle.State)

namespace Work

/-- The pool that the cycles of a task share with others. -/
def pool : Work → Pool
  | idle p => p
  | busy _ s => s.pool

/-- How the cycle on its way has ended, if it has. -/
def outcome? : Work → Option CycleOutcome
  | idle _ => none
  | busy _ s => s.stage.outcome?

end Work

/-- A task on its way. -/
structure State where
  task : AlertTask
  work : Work
  /-- When the last step was taken that happens at a moment. -/
  clock : Nat

/-- A step. -/
inductive Event where
  /-- The task is told to stop. -/
  | shutdown
  /-- While it waits, it looks at a moment for the shutdown and then for a tick.  A cycle that
  starts then has the time in seconds since 1970, and meets a network. -/
  | wake (moment now : Nat) (net : Network)
  /-- A step of the cycle on its way, or of others on the pool meanwhile. -/
  | within (e : Cycle.Event)
  /-- A step of others on the pool while no cycle is on its way. -/
  | elsewhere (e : Pool.Event)
  /-- The task learns at a moment how its cycle has ended. -/
  | finish (moment : Nat)

/-- A task that has not run a cycle yet. -/
def begin (ticker : Ticker) (pool : Pool) : State :=
  { task := .new ticker, work := .idle pool, clock := 0 }

/-- The state once the task has been told to stop. -/
def State.told (s : State) : State :=
  { s with task := s.task.cancel }

end Schedule

open Lookout.Schedule (Work State Event)

namespace Routine

/-- A cycle that starts at a time, in seconds since 1970. -/
def cycle (r : Routine) (now : Nat) (net : Network) : CycleTask where
  alert := r.alert
  now := now
  dispatcher := r.dispatcher
  net := net
  timeout := r.timeout

/-- What a task does next that has looked for the shutdown and for a tick. -/
def behind (r : Routine) (now : Nat) (net : Network) (pool : Pool) (t : AlertTask) : Work :=
  match t.phase with
  | .running _ => .busy (r.cycle now net) (Cycle.start pool)
  | _ => .idle pool

/-- The state after a step, if the step is possible. -/
def step? (r : Routine) (s : State) : Event → Option State
  | .shutdown => (s.task.step? .shutdown).map fun t => { s with task := t }
  | .wake moment now net =>
    if s.clock ≤ moment then
      (s.task.step? (.wake moment)).map fun t =>
        { task := t, work := r.behind now net s.work.pool t, clock := moment }
    else none
  | .within e =>
    match s.work with
    | .busy c state => (c.step? state e).map fun state' => { s with work := .busy c state' }
    | .idle _ => none
  | .elsewhere e =>
    match s.work with
    | .idle pool => (pool.step? e).map fun q => { s with work := .idle q }
    | .busy _ _ => none
  | .finish moment =>
    match s.work.outcome? with
    | some outcome =>
      if s.clock ≤ moment then
        (s.task.step? (.finish moment outcome)).map fun t =>
          { task := t, work := .idle s.work.pool, clock := moment }
      else none
    | none => none

/-- The state after steps, if they are possible one after the other. -/
def steps? (r : Routine) (s : State) (es : List Event) : Option State :=
  es.foldlM r.step? s

end Routine

end Lookout
