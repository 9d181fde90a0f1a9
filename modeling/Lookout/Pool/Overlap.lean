/-
Using a pool whose workers are still at what earlier callers left behind.

A run that is given up on stops at its next statement, and there may be none for a long time.  The
slot is free from the moment that the caller leaves, so the next one may send its job to a worker
that is still at the last one.

A worker that dies is through with that here before its caller goes on.  Whether it really is the
faster of the two is up to the system; all orders of these steps are runs of the pool, and nothing
is said here about which of them comes about.
-/
import Lookout.Pool.Session

namespace Lookout.Pool

open Script (Interpreter Outcome Trouble)

/-- Whether the run of a job goes on when its caller has no patience left. -/
def outlasts (i : Interpreter) (patience : Option Nat) (request : EvalRequest) : Bool :=
  patience.any fun n => n < i.lasts patience request.script request.context

/-- A worker comes to the end of the job that it is still at. -/
def catchUp (w : Nat) (p : Pool) : Pool :=
  match p.runOf w none with
  | none => p
  | some (_, result) =>
    if isDeath result.1 then p.after [.die w, .uncount w, .closeQueue w]
    else p.after [.finish w none]

/-- The rest of an evaluation once the worker has begun the job and its run is known.  The caller
may leave while the worker is at the job. -/
def concludeOverlapping (patience : Option Nat) (request : EvalRequest) (h w j : Nat)
    (result : Except Trouble Outcome × Interpreter) (p : Pool) : Evaluation × Pool :=
  match result.1 with
  | .error .cancelled => p.conclude h w j result
  | _ =>
    if outlasts result.2 patience request then
      (.gaveUp, p.after [.dropHandle h, .returnPermit h])
    else p.conclude h w j result

/-- A script evaluated on a free slot, whose worker may have to come to the end of another job
first. -/
def evaluateOverlapping (patience : Option Nat) (request : EvalRequest) (p : Pool) :
    Evaluation × Pool :=
  match p.acquire? with
  | none => (.gaveUp, p)
  | some (h, taken) =>
    match taken.slotOf? h with
    | none => (.gaveUp, p)
    | some slot =>
      let sent := (taken.after [.send h request]).catchUp slot.worker
      let begun := sent.after [.start slot.worker]
      match begun.runOf slot.worker patience with
      | none =>
        let told := begun.after [.receive h]
        (told.lastAnswer, told.after [.dropHandle h, .returnPermit h])
      | some (j, result) => begun.concludeOverlapping patience request h slot.worker j result

end Lookout.Pool
