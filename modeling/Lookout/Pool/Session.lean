/-
Using a pool: slots taken and given back, and scripts evaluated, one thing after the other.

Each of these is a sequence of steps of the pool.  A caller has only so much patience, measured
by the clock of the run; a script that is still running then is given up on, and stops at its next
statement.  Here every worker has come to the end of its job before the next caller has its turn.
-/
import Lookout.Pool.Step

namespace Lookout

open Script (Interpreter Outcome Trouble)

/-- Why a pool could not be started. -/
inductive PoolError where
  | noSlots
  /-- The helper script failed in a slot. -/
  | helpers (slot : Nat) (t : Trouble)
deriving DecidableEq, Repr

/-- The reason why a pool could not be started. -/
def PoolError.reason : PoolError → String
  | .noSlots => "interpreter pool size must be at least 1"
  | .helpers slot .died => "slot " ++ toString slot ++ " exited during startup"
  | .helpers slot t => "slot " ++ toString slot ++ ": " ++ t.message

namespace Pool

/-- A pool of a size whose slots all run the helper script at their start.  The script does
the same in each slot, so the first one decides. -/
def create (size : Nat) (helpers : Option String) : Except PoolError Pool :=
  if size = 0 then .error .noSlots
  else
    match Interpreter.start helpers with
    | .ok i => .ok (new size i)
    | .error t => .error (.helpers 0 t)

/-- A slot taken, if one is free: the number of the handle, and the pool then. -/
def acquire? (p : Pool) : Option (Nat × Pool) :=
  (p.steps? [.takePermit, .popSlot p.nextHandle]).map fun q => (p.nextHandle, q)

/-- A handle given back. -/
def release? (h : Nat) (p : Pool) : Option Pool :=
  p.steps? [.dropHandle h, .returnPermit h]

/-- The slot that a handle holds. -/
def slotOf? (p : Pool) (h : Nat) : Option Slot :=
  match p.holding? h with
  | some (.held slot _) => some slot
  | _ => none

/-- What came of an evaluation for its caller. -/
inductive Evaluation where
  | answered (outcome : Except EvalError Outcome)
  | gaveUp

/-- The state after steps, or the same state if one of them is not possible. -/
def after (es : List Event) (p : Pool) : Pool :=
  (p.steps? es).getD p

/-- The last answer that a caller was told. -/
def lastAnswer (p : Pool) : Evaluation :=
  match p.answers with
  | a :: _ => .answered a.outcome
  | [] => .gaveUp

/-- The rest of an evaluation once the worker has begun the job and its run is known. -/
def conclude (h w j : Nat) (result : Except Trouble Outcome × Interpreter) (p : Pool) :
    Evaluation × Pool :=
  if isDeath result.1 then
    let told := p.after [.die w, .uncount w, .closeQueue w, .receive h]
    (told.lastAnswer, told.after [.dropHandle h, .returnPermit h])
  else
    match result.1 with
    | .error .cancelled =>
      (.gaveUp, (p.after [.dropHandle h, .returnPermit h]).reply w j result)
    | _ =>
      let told := (p.reply w j result).after [.receive h]
      (told.lastAnswer, told.after [.dropHandle h, .returnPermit h])

/-- A script evaluated on a free slot by a caller of some patience.  Without a free slot it
gives up. -/
def evaluate (patience : Option Nat) (request : EvalRequest) (p : Pool) : Evaluation × Pool :=
  match p.acquire? with
  | none => (.gaveUp, p)
  | some (h, taken) =>
    let sent := taken.after [.send h request]
    match taken.slotOf? h with
    | none => (.gaveUp, p)
    | some slot =>
      let begun := sent.after [.start slot.worker]
      match begun.runOf slot.worker patience with
      | none => (begun.lastAnswer, begun.after [.dropHandle h, .returnPermit h])
      | some (j, result) => begun.conclude h slot.worker j result

end Pool

end Lookout
