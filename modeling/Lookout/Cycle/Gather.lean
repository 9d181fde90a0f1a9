/-
The actions of one dispatch, gathered while they are under way together.

A step of a cycle lets an action end as it ends by itself.  Here what makes it end is followed: an
action does what it can without waiting, and is over or has sent a request; in the latter case it
waits for what the network answers to that request, and judges it.  Actions begin in any order,
and answers come in any order.  The report is there once every action is over.
-/
import Lookout.Cycle.Step

namespace Lookout

/-! ### An action up to its wait, and behind it -/

/-- What an action comes to without waiting. -/
inductive Opening where
  /-- It is over. -/
  | finished (result : Except ActionError Unit) (logs : List LogRecord)
  /-- It waits for the answer to a request. -/
  | asks (request : HttpRequest)

/-- An action that needs a request: it is over if none can be made. -/
def Opening.ofRequest : Except SendError HttpRequest → Opening
  | .error e => .finished (.error (.ofSend e)) []
  | .ok request => .asks request

namespace Dispatcher

/-- An action up to its wait. -/
def opening (d : Dispatcher) (c : AlertContext) : Action → Opening
  | .log message => .finished (.ok ()) [⟨c.name, c.startedTs, message⟩]
  | .http a =>
    if !isToken a.method then .finished (.error (.invalidRequest "invalid HTTP method")) []
    else .ofRequest (HttpRequest.build a.method a.url a.headers a.body)
  | .slack text =>
    match d.webhook with
    | none => .finished (.error .webhookNotConfigured) []
    | some endpoint =>
      if text.isEmpty then .finished (.error .missingText) []
      else
        let headers := [("content-type", "application/json")]
        .ofRequest (HttpRequest.build "POST" endpoint headers (chatBody text))

/-- An action behind its wait: the result that it finds in what came back for its request. -/
def closing : Action → Except SendError HttpResponse → Except ActionError Unit
  | _, .error e => .error (.ofSend e)
  | .http _, .ok response => judgeStatus response
  | .log _, .ok _ | .slack _, .ok _ => .ok ()

end Dispatcher

/-! ### Actions under way together -/

/-- Actions that are carried out together. -/
structure Gathering where
  dispatcher : Dispatcher
  net : Network
  context : AlertContext
  actions : List Action

namespace Gathering

/-- How far an action has come. -/
inductive Stage where
  | due
  | waiting (request : HttpRequest)
  | done (result : Except ActionError Unit)

/-- How far an action has come, as the steps of a cycle tell it. -/
def Stage.coarse : Stage → Cycle.ActionStage
  | due => .due
  | waiting _ => .begun
  | done result => .done result

/-- How far the actions have come, and what they have sent and written so far. -/
structure State where
  stages : List Stage
  sent : List HttpRequest
  logs : List LogRecord

/-- What can happen next, to the action of a number. -/
inductive Event where
  | begins (i : Nat)
  /-- The answer to its request comes. -/
  | answered (i : Nat)
deriving DecidableEq, Repr

/-- No action has begun. -/
def start (g : Gathering) : State :=
  ⟨g.actions.map fun _ => .due, [], []⟩

/-- The state after an action did what it can without waiting. -/
def opened (i : Nat) (s : State) : Opening → State
  | .finished result logs => { s with
      stages := s.stages.set i (.done result)
      logs := s.logs ++ logs }
  | .asks request => { s with
      stages := s.stages.set i (.waiting request)
      sent := s.sent ++ [request] }

/-- The state after a step, if the step is possible. -/
def step? (g : Gathering) (s : State) : Event → Option State
  | .begins i =>
    match g.actions[i]?, s.stages[i]? with
    | some a, some .due => some (opened i s (g.dispatcher.opening g.context a))
    | _, _ => none
  | .answered i =>
    match g.actions[i]?, s.stages[i]? with
    | some a, some (.waiting request) =>
      let exchange := g.net.send g.dispatcher.timeout request
      let result := Dispatcher.closing a exchange.result
      some { s with stages := s.stages.set i (.done result) }
    | _, _ => none

/-- The state after a sequence of steps, if each of them is possible. -/
def steps? (g : Gathering) (s : State) : List Event → Option State
  | [] => some s
  | e :: es =>
    match g.step? s e with
    | some s' => g.steps? s' es
    | none => none

/-- The report, once every action is over. -/
def report? (g : Gathering) (s : State) : Option DispatchReport :=
  (Cycle.outcomes? 0 g.actions (s.stages.map Stage.coarse)).map DispatchReport.mk

end Gathering

end Lookout
