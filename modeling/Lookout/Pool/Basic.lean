/-
The pool of interpreters, as a state.

A pool has a fixed number of slots.  Each slot has a worker that owns an interpreter and takes
jobs from a queue.  A caller that wants a slot first takes a permit and then the slot on top of
the free list; until both are given back it holds a handle.  A worker can die inside a job; it
then lets go of the job first, of its place in the count of live workers next, and of its queue
last.
-/
import Lookout.Script.Interpreter

namespace Lookout

open Script (Interpreter Outcome Trouble)

/-- A condition to run, and the context to run it against. -/
structure EvalRequest where
  script : String
  context : AlertContext

/-- Why an evaluation on a pool has no outcome. -/
inductive EvalError where
  | trouble (t : Trouble)
  /-- The worker died while the caller waited. -/
  | stopped (slot : Nat)
  /-- The worker was dead before the job could be sent. -/
  | gone (slot : Nat)
  /-- There was a permit but no slot. -/
  | noSlot
deriving DecidableEq, Repr

/-- The reason that an evaluation gives. -/
def EvalError.reason : EvalError → String
  | trouble t => t.message
  | stopped slot => "slot " ++ toString slot ++ " worker stopped mid-run"
  | gone slot => "slot " ++ toString slot ++ " worker is gone"
  | noSlot => "no interpreter slot available"

namespace Pool

/-- What became of a job. -/
inductive Reply where
  | waiting
  | answered (outcome : Except Trouble Outcome)
  /-- The worker let go of the job without an answer. -/
  | closed

/-- A job. -/
structure Job where
  request : EvalRequest
  /-- Whether its caller gave up on it. -/
  cancelled : Bool
  reply : Reply

/-- How far a worker has come with dying. -/
inductive WorkerPhase where
  | working
  /-- It has let go of its job. -/
  | dying
  /-- It is no longer counted. -/
  | uncounted
  /-- It has let go of its queue. -/
  | gone
deriving DecidableEq, Repr

/-- A worker. -/
structure Worker where
  interpreter : Interpreter
  /-- The jobs still to come. -/
  queue : List Nat
  /-- The job it is at. -/
  current : Option Nat
  phase : WorkerPhase

/-- A slot: its number and its present worker. -/
structure Slot where
  id : Nat
  worker : Nat
deriving DecidableEq, Repr

/-- What a held slot is being used for. -/
inductive SlotState where
  | idle
  /-- A job was sent and its reply not received yet. -/
  | running (job : Nat)
  /-- The worker is known to be dead. -/
  | dead
deriving DecidableEq, Repr

/-- What a handle holds, beside its permit. -/
inductive Holding where
  /-- A permit, and no slot yet. -/
  | permitted
  /-- A permit, and no slot to be had. -/
  | refused
  | held (slot : Slot) (state : SlotState)
  /-- The slot is given back, the permit is not. -/
  | dropped
deriving DecidableEq, Repr

/-- What a caller was told about its job. -/
structure Answer where
  job : Nat
  outcome : Except EvalError Outcome

end Pool

/-- A pool. -/
structure Pool where
  size : Nat
  /-- The interpreter that a new worker starts with. -/
  fresh : Interpreter
  permits : Nat
  /-- The free slots; the first is taken next. -/
  free : List Pool.Slot
  /-- How many workers count as live. -/
  live : Nat
  workers : Array Pool.Worker
  jobs : Array Pool.Job
  /-- The handles in use, each with its number. -/
  handles : List (Nat × Pool.Holding)
  /-- The number of the next handle. -/
  nextHandle : Nat
  /-- What callers were told, the latest first. -/
  answers : List Pool.Answer

namespace Pool

/-- A worker that has not worked yet. -/
def Worker.new (i : Interpreter) : Worker :=
  ⟨i, [], none, .working⟩

/-- The pool of a size whose workers all start with one interpreter. -/
def new (size : Nat) (fresh : Interpreter) : Pool where
  size := size
  fresh := fresh
  permits := size
  free := ((List.range size).map fun i => ⟨i, i⟩).reverse
  live := size
  workers := Array.replicate size (Worker.new fresh)
  jobs := #[]
  handles := []
  nextHandle := 0
  answers := []

/-- The number of slots that are not taken. -/
def available (p : Pool) : Nat :=
  p.permits

/-- What a handle holds. -/
def holding? (p : Pool) (h : Nat) : Option Holding :=
  p.handles.lookup h

/-- The pool with a handle holding something else. -/
def hold (h : Nat) (content : Holding) (p : Pool) : Pool :=
  { p with handles := p.handles.map fun e => if e.1 = h then (h, content) else e }

/-- The pool as shown. -/
def debugText (p : Pool) : String :=
  "InterpreterPool \x7b size: " ++ toString p.size ++ ", available: " ++ toString p.available
    ++ ", .. \x7d"

/-- A slot state as shown. -/
def SlotState.debugText : SlotState → String
  | idle => "Idle"
  | running _ => "Running(false)"
  | dead => "Dead"

/-- A holding as shown. -/
def Holding.debugText : Holding → String
  | held slot state =>
    "InterpreterHandle \x7b slot: Some(" ++ toString slot.id ++ "), state: " ++ state.debugText
      ++ " \x7d"
  | _ => "InterpreterHandle \x7b slot: None, state: Idle \x7d"

end Pool

end Lookout
