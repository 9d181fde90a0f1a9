/-
The steps of one cycle that shares its pool with others.

A cycle waits in four places: for the query, for a slot, for the answer to its job, and for its
actions.  Between them other callers and the workers take steps of the pool, and in each of them
the deadline may pass, which ends the cycle there and lets go of the slot.  What the cycle does
from one wait to the next nothing can cut off, though others may come in between.

The actions begin in any order and end in any order.  What an action sends and writes goes out
when it begins.
-/
import Lookout.Cycle.Run

namespace Lookout

/-- The handle that a step of a pool is one of. -/
def Pool.Event.handle? : Pool.Event → Option Nat
  | popSlot h => some h
  | send h _ => some h
  | receive h => some h
  | dropHandle h => some h
  | returnPermit h => some h
  | _ => none

/-- What one cycle is about. -/
structure CycleTask where
  alert : AlertDefinition
  /-- When it starts, in seconds since 1970. -/
  now : Nat
  dispatcher : Dispatcher
  net : Network
  /-- Its deadline, counted from its start. -/
  timeout : Duration

namespace Cycle

/-- How far an action has come. -/
inductive ActionStage where
  | due
  | begun
  | done (result : Except ActionError Unit)

/-- How far a cycle has come. -/
inductive Stage where
  /-- Its query is on the way. -/
  | asking
  /-- It waits for a permit. -/
  | queueing (c : AlertContext)
  /-- It has a permit and no slot yet. -/
  | permitted (c : AlertContext) (handle : Nat)
  /-- It has a slot and no job in it yet. -/
  | seated (c : AlertContext) (handle : Nat)
  /-- Its job was sent. -/
  | judging (c : AlertContext) (handle : Nat)
  /-- The condition holds, and the actions have come so far. -/
  | acting (c : AlertContext) (actions : List ActionStage)
  | ended (outcome : CycleOutcome)

/-- The handle that a cycle has, as long as it needs it. -/
def Stage.handle? : Stage → Option Nat
  | permitted _ h => some h
  | seated _ h => some h
  | judging _ h => some h
  | _ => none

/-- A cycle on its way. -/
structure State where
  pool : Pool
  stage : Stage
  /-- What the query came to. -/
  answer : Option (Except QueryError Value)
  /-- The job of its condition. -/
  job : Option Nat
  /-- What it was told about the condition. -/
  told : Option (Except EvalError Script.Outcome)
  /-- The requests of its actions. -/
  sent : List HttpRequest
  /-- The records that its actions wrote. -/
  logs : List LogRecord

/-- A step. -/
inductive Event where
  /-- The query ends. -/
  | answer (result : Except QueryError Value)
  /-- A step of the pool that is not one of this cycle. -/
  | elsewhere (e : Pool.Event)
  | takePermit
  | popSlot
  | send
  | receive
  | beginAction (i : Nat)
  | endAction (i : Nat)
  /-- All actions have ended. -/
  | report
  /-- The deadline passes. -/
  | deadline

/-- The cycle before its query ends. -/
def start (pool : Pool) : State :=
  { pool
    stage := .asking
    answer := none
    job := none
    told := none
    sent := []
    logs := [] }

/-- The result of an action that has ended. -/
def ActionStage.result? : ActionStage → Option (Except ActionError Unit)
  | done result => some result
  | _ => none

/-- The outcomes of actions that have all ended, the first of which has the given number. -/
def outcomes? (index : Nat) : List Action → List ActionStage → Option (List ActionOutcome)
  | [], [] => some []
  | a :: as, s :: ss => do
    let result ← s.result?
    let rest ← outcomes? (index + 1) as ss
    some (⟨index, a.kind, result⟩ :: rest)
  | _, _ => none

end Cycle

open Lookout.Cycle (Stage State Event ActionStage)

namespace CycleTask

/-- The job of a cycle. -/
def request (t : CycleTask) (c : AlertContext) : EvalRequest :=
  ⟨t.alert.condition, c⟩

/-- What follows from what a cycle was told about its condition. -/
def verdict (t : CycleTask) (c : AlertContext) : Except EvalError Script.Outcome → Stage
  | .error e => .ended (.failed (.script e))
  | .ok o =>
    if o.matched then .acting (c.withResult o.result) (t.alert.actions.map fun _ => .due)
    else .ended .noMatch

/-- What a cycle does once it was told about its condition: it lets go of the slot first. -/
def conclude (t : CycleTask) (c : AlertContext) (h : Nat) (s : State) : Option State :=
  match s.pool.answers, s.pool.dropHandle h with
  | a :: _, some q => some { s with
      pool := q
      told := some a.outcome
      stage := t.verdict c a.outcome }
  | _, _ => none

/-- The job of a cycle sent.  A worker that is dead already is an answer in itself. -/
def send (t : CycleTask) (c : AlertContext) (h : Nat) (s : State) : Option State :=
  match s.pool.send h (t.request c) with
  | none => none
  | some q =>
    let sent : State := { s with pool := q, job := some s.pool.jobs.size }
    match q.holding? h with
    | some (.held _ .dead) => t.conclude c h sent
    | _ => some { sent with stage := .judging c h }

/-- The slot on top taken.  Without one the condition fails. -/
def popSlot (c : AlertContext) (h : Nat) (s : State) : Option State :=
  match s.pool.popSlot h with
  | none => none
  | some q =>
    match q.holding? h with
    | some .refused => some { s with
        pool := q
        told := some (.error .noSlot)
        stage := .ended (.failed (.script .noSlot)) }
    | _ => some { s with pool := q, stage := .seated c h }

/-- An action begun: what it sends and writes goes out. -/
def beginAction (t : CycleTask) (c : AlertContext) (actions : List ActionStage) (i : Nat)
    (s : State) : Option State :=
  match t.alert.actions[i]?, actions[i]? with
  | some a, some .due =>
    let run := t.dispatcher.dispatch t.net c a
    some { s with
      stage := .acting c (actions.set i .begun)
      sent := s.sent ++ run.requests
      logs := s.logs ++ run.logs }
  | _, _ => none

/-- An action ended. -/
def endAction (t : CycleTask) (c : AlertContext) (actions : List ActionStage) (i : Nat)
    (s : State) : Option State :=
  match t.alert.actions[i]?, actions[i]? with
  | some a, some .begun =>
    let result := (t.dispatcher.dispatch t.net c a).result
    some { s with stage := .acting c (actions.set i (.done result)) }
  | _, _ => none

/-- The end of a cycle whose deadline passes.  It can pass only where the cycle waits. -/
def deadline (t : CycleTask) (s : State) : Option State :=
  let late : State := { s with stage := .ended (.failed (.timeout t.timeout)) }
  match s.stage with
  | .asking => some late
  | .queueing _ => some late
  | .judging _ h => (s.pool.dropHandle h).map fun q => { late with pool := q }
  | .acting _ _ => some late
  | _ => none

/-- The state of a cycle after a step, if the step is possible. -/
def step? (t : CycleTask) (s : State) : Event → Option State
  | .answer result =>
    match s.stage with
    | .asking => some { s with
        answer := some result
        stage := match result with
          | .error e => .ended (.failed (.query e))
          | .ok v => .queueing ⟨t.alert.name, t.now, v⟩ }
    | _ => none
  | .elsewhere e =>
    if e.handle?.isSome && e.handle? == s.stage.handle? then none
    else (s.pool.step? e).map fun q => { s with pool := q }
  | .takePermit =>
    match s.stage with
    | .queueing c => s.pool.takePermit.map fun q =>
        { s with pool := q, stage := .permitted c s.pool.nextHandle }
    | _ => none
  | .popSlot =>
    match s.stage with
    | .permitted c h => popSlot c h s
    | _ => none
  | .send =>
    match s.stage with
    | .seated c h => t.send c h s
    | _ => none
  | .receive =>
    match s.stage with
    | .judging c h => (s.pool.receive h).bind fun q => t.conclude c h { s with pool := q }
    | _ => none
  | .beginAction i =>
    match s.stage with
    | .acting c actions => t.beginAction c actions i s
    | _ => none
  | .endAction i =>
    match s.stage with
    | .acting c actions => t.endAction c actions i s
    | _ => none
  | .report =>
    match s.stage with
    | .acting _ actions => (Cycle.outcomes? 0 t.alert.actions actions).map fun outcomes =>
        { s with stage := .ended (.matched ⟨outcomes⟩) }
    | _ => none
  | .deadline => t.deadline s

/-- The state of a cycle after a sequence of steps, if each of them is possible. -/
def steps? (t : CycleTask) (s : State) : List Event → Option State
  | [] => some s
  | e :: es =>
    match t.step? s e with
    | some s' => t.steps? s' es
    | none => none

end CycleTask

end Lookout
