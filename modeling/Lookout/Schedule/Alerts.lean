/-
The tasks of alerts.

Every alert that was built has a task, for its interval is not zero.  Tasks do not wait for each
other, so each runs as if it were alone; the scheduler has stopped when all of them have.
-/
import Lookout.Cycle.Run
import Lookout.Schedule.Task

namespace Lookout

/-- The task of an alert, the first cycle of which is due at once. -/
def AlertDefinition.task? (a : AlertDefinition) : Option AlertTask :=
  (Ticker.every? a.interval 0).map .new

/-- The length of a cycle that was run. -/
def CycleRun.length (c : CycleRun) : AlertTask.CycleLength :=
  ⟨c.took, c.outcome⟩

/-- When all of some tasks have stopped, and the shutdown has come. -/
def AlertTask.allStopped (shutdown : Nat) (tasks : List AlertTask) : Nat :=
  tasks.foldl (fun latest t => max latest (t.stoppedAt?.getD 0)) shutdown

end Lookout
