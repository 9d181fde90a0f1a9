/-
The steps of a pool.

Callers and workers take turns in any order, and each step is one that nothing else can come
between.  A step that is not possible in a state has no next state.
-/
import Lookout.Pool.Basic

namespace Lookout.Pool

open Script (Interpreter Outcome Trouble)

/-- A step.  Workers and jobs are given by their number, callers by the number of their
handle. -/
inductive Event where
  /-- A caller takes a permit; its handle gets the next number. -/
  | takePermit
  /-- A caller with a permit takes the slot on top. -/
  | popSlot (handle : Nat)
  | send (handle : Nat) (request : EvalRequest)
  | start (worker : Nat)
  /-- A worker answers its job.  A job that its caller gave up on may have stopped at some time of
  its clock. -/
  | finish (worker : Nat) (cancelAt : Option Nat)
  /-- A worker dies inside its job and lets go of it. -/
  | die (worker : Nat)
  /-- A dying worker stops counting as live. -/
  | uncount (worker : Nat)
  /-- A dying worker lets go of its queue. -/
  | closeQueue (worker : Nat)
  /-- A caller receives what became of its job. -/
  | receive (handle : Nat)
  /-- A caller drops its handle: the slot goes back, with a new worker if the old one is known
  to be dead. -/
  | dropHandle (handle : Nat)
  /-- The permit of a dropped handle goes back. -/
  | returnPermit (handle : Nat)

/-- The pool with a job changed. -/
def modifyJob (j : Nat) (f : Job → Job) (p : Pool) : Pool :=
  { p with jobs := p.jobs.modify j f }

/-- The pool with a worker changed. -/
def modifyWorker (w : Nat) (f : Worker → Worker) (p : Pool) : Pool :=
  { p with workers := p.workers.modify w f }

/-- A permit taken. -/
def takePermit (p : Pool) : Option Pool :=
  if p.permits = 0 then none
  else some { p with
    permits := p.permits - 1
    handles := (p.nextHandle, .permitted) :: p.handles
    nextHandle := p.nextHandle + 1 }

/-- The slot on top taken. -/
def popSlot (h : Nat) (p : Pool) : Option Pool :=
  match p.holding? h, p.free with
  | some .permitted, slot :: rest => some ({ p with free := rest }.hold h (.held slot .idle))
  | some .permitted, [] => some (p.hold h .refused)
  | _, _ => none

/-- A job sent to the worker of a held slot. -/
def send (h : Nat) (request : EvalRequest) (p : Pool) : Option Pool :=
  match p.holding? h with
  | some (.held slot .idle) =>
    let j := p.jobs.size
    match (p.workers[slot.worker]?).map Worker.phase with
    | none => none
    | some .gone =>
      some ({ p with
        jobs := p.jobs.push ⟨request, false, .closed⟩
        answers := ⟨j, .error (.gone slot.id)⟩ :: p.answers }.hold h (.held slot .dead))
    | some _ =>
      let sent := { p with jobs := p.jobs.push ⟨request, false, .waiting⟩ }
      some ((sent.modifyWorker slot.worker fun w => { w with queue := w.queue ++ [j] }).hold h
        (.held slot (.running j)))
  | _ => none

/-- The next job of a worker begun. -/
def start (w : Nat) (p : Pool) : Option Pool :=
  match p.workers[w]? with
  | some ⟨_, j :: queue, none, .working⟩ =>
    some (p.modifyWorker w fun k => { k with queue := queue, current := some j })
  | _ => none

/-- The job of a worker answered with the result of a run. -/
def reply (w j : Nat) (result : Except Trouble Outcome × Interpreter) (p : Pool) : Pool :=
  (p.modifyJob j fun job => { job with reply := .answered result.1 }).modifyWorker w fun k =>
    { k with interpreter := result.2, current := none }

/-- The run of the job that a worker is at, stopped at some time of its clock. -/
def runOf (w : Nat) (cancelAt : Option Nat) (p : Pool) :
    Option (Nat × (Except Trouble Outcome × Interpreter)) :=
  match p.workers[w]? with
  | some ⟨i, _, some j, .working⟩ =>
    (p.jobs[j]?).map fun job => (j, i.run cancelAt job.request.script job.request.context)
  | _ => none

/-- Whether a run ended in the death of the worker. -/
def isDeath : Except Trouble Outcome → Bool
  | .error .died => true
  | _ => false

/-- The job of a worker run and answered. -/
def finish (w : Nat) (cancelAt : Option Nat) (p : Pool) : Option Pool :=
  match p.runOf w cancelAt with
  | some (j, result) =>
    let cancelled := (p.jobs[j]?).any (·.cancelled)
    if isDeath result.1 || (cancelAt.isSome && !cancelled) then none else some (p.reply w j result)
  | none => none

/-- The job of a worker let go of without an answer. -/
def die (w : Nat) (p : Pool) : Option Pool :=
  match p.workers[w]? with
  | some ⟨_, _, some j, .working⟩ =>
    some ((p.modifyJob j fun job => { job with reply := .closed }).modifyWorker w fun k =>
      { k with current := none, phase := .dying })
  | _ => none

/-- A dying worker no longer counted. -/
def uncount (w : Nat) (p : Pool) : Option Pool :=
  match (p.workers[w]?).map Worker.phase with
  | some .dying =>
    some ({ p with live := p.live - 1 }.modifyWorker w fun k => { k with phase := .uncounted })
  | _ => none

/-- The queue of a dying worker let go of: none of its jobs gets an answer. -/
def closeQueue (w : Nat) (p : Pool) : Option Pool :=
  match p.workers[w]? with
  | some ⟨_, queue, _, .uncounted⟩ =>
    let closed := queue.foldl (fun p j => p.modifyJob j fun job => { job with reply := .closed }) p
    some (closed.modifyWorker w fun k => { k with queue := [], phase := .gone })
  | _ => none

/-- What became of a job received. -/
def receive (h : Nat) (p : Pool) : Option Pool :=
  match p.holding? h with
  | some (.held slot (.running j)) =>
    match (p.jobs[j]?).map Job.reply with
    | some (.answered outcome) =>
      let told : Except EvalError Outcome := match outcome with
        | .ok o => .ok o
        | .error t => .error (.trouble t)
      some ({ p with answers := ⟨j, told⟩ :: p.answers }.hold h (.held slot .idle))
    | some .closed =>
      some ({ p with answers := ⟨j, .error (.stopped slot.id)⟩ :: p.answers }.hold h
        (.held slot .dead))
    | _ => none
  | _ => none

/-- A handle dropped. -/
def dropHandle (h : Nat) (p : Pool) : Option Pool :=
  match p.holding? h with
  | some (.held slot .idle) => some ({ p with free := slot :: p.free }.hold h .dropped)
  | some (.held slot (.running j)) =>
    some (({ p with free := slot :: p.free }.modifyJob j fun job =>
      { job with cancelled := true }).hold h .dropped)
  | some (.held slot .dead) =>
    some ({ p with
      workers := p.workers.push (Worker.new p.fresh)
      live := p.live + 1
      free := ⟨slot.id, p.workers.size⟩ :: p.free }.hold h .dropped)
  | _ => none

/-- A permit given back. -/
def returnPermit (h : Nat) (p : Pool) : Option Pool :=
  let back : Pool := { p with
    permits := p.permits + 1
    handles := p.handles.filter fun e => e.1 ≠ h }
  match p.holding? h with
  | some .dropped => some back
  | some .refused => some back
  | _ => none

/-- The state after a step, if the step is possible. -/
def step? (p : Pool) : Event → Option Pool
  | .takePermit => p.takePermit
  | .popSlot h => p.popSlot h
  | .send h request => p.send h request
  | .start w => p.start w
  | .finish w cancelAt => p.finish w cancelAt
  | .die w => p.die w
  | .uncount w => p.uncount w
  | .closeQueue w => p.closeQueue w
  | .receive h => p.receive h
  | .dropHandle h => p.dropHandle h
  | .returnPermit h => p.returnPermit h

/-- The state after a sequence of steps, if each of them is possible. -/
def steps? (p : Pool) : List Event → Option Pool
  | [] => some p
  | e :: es =>
    match p.step? e with
    | some q => q.steps? es
    | none => none

end Lookout.Pool
