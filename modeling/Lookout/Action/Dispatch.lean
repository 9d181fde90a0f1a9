/-
Carrying out actions.

Each action is carried out on its own: what becomes of it depends on the action, the context
and the network alone.  All actions of an alert start together, so they take as long as the
slowest one.
-/
import Lookout.Action.Report
import Lookout.Context
import Lookout.Http.Network
import Lookout.Json.Text

namespace Lookout

/-- What is needed to carry out actions. -/
structure Dispatcher where
  /-- Where chat messages go. -/
  webhook : Option String
  timeout : Duration
deriving DecidableEq, Repr

/-- A record that a log action writes. -/
structure LogRecord where
  alert : String
  startedTs : Nat
  message : String
deriving DecidableEq, Repr

/-- What came of one action: its result, the requests it sent and the records it wrote, and how
long it took. -/
structure ActionRun where
  result : Except ActionError Unit
  requests : List HttpRequest
  logs : List LogRecord
  took : Duration

/-- What came of the actions of an alert. -/
structure Dispatch where
  report : DispatchReport
  requests : List HttpRequest
  logs : List LogRecord
  took : Duration

/-- The error of an action whose request got no response. -/
def ActionError.ofSend (e : SendError) : ActionError :=
  if e.isUnbuilt then .invalidRequest e.message else .transport e.message

namespace ActionRun

/-- An action that failed before anything was sent. -/
def refused (e : ActionError) : ActionRun :=
  ⟨.error e, [], [], ⟨0⟩⟩

end ActionRun

namespace Dispatcher

/-- A dispatcher; an empty webhook counts as none. -/
def new (webhook : Option String) (timeout : Duration) : Dispatcher :=
  ⟨webhook.filter (· ≠ ""), timeout⟩

/-- A request built and sent, with the result that `judge` finds in a response. -/
def send (d : Dispatcher) (net : Network) (request : Except SendError HttpRequest)
    (judge : HttpResponse → Except ActionError Unit) : ActionRun :=
  match request with
  | .error e => .refused (.ofSend e)
  | .ok request =>
    let exchange := net.send d.timeout request
    let result : Except ActionError Unit := match exchange.result with
      | .error e => .error (.ofSend e)
      | .ok response => judge response
    ⟨result, [request], [], exchange.took⟩

/-- The result of a request: its status has to mean success. -/
def judgeStatus (response : HttpResponse) : Except ActionError Unit :=
  if response.isSuccess then .ok () else .error (.status response.status)

/-- A request action.  Its method is looked at before all else. -/
def sendHttp (d : Dispatcher) (net : Network) (a : HttpAction) : ActionRun :=
  if !isToken a.method then .refused (.invalidRequest "invalid HTTP method")
  else d.send net (HttpRequest.build a.method a.url a.headers a.body) judgeStatus

/-- The body of a chat message. -/
def chatBody (text : String) : String :=
  "\x7b\"text\":" ++ String.ofList (Json.quote text) ++ "\x7d"

/-- A chat message.  Any response will do. -/
def sendChat (d : Dispatcher) (net : Network) (text : String) : ActionRun :=
  match d.webhook with
  | none => .refused .webhookNotConfigured
  | some endpoint =>
    if text.isEmpty then .refused .missingText
    else
      let headers := [("content-type", "application/json")]
      d.send net (HttpRequest.build "POST" endpoint headers (chatBody text)) fun _ => .ok ()

/-- One action carried out. -/
def dispatch (d : Dispatcher) (net : Network) (c : AlertContext) : Action → ActionRun
  | .log message => ⟨.ok (), [], [⟨c.name, c.startedTs, message⟩], ⟨0⟩⟩
  | .http request => d.sendHttp net request
  | .slack text => d.sendChat net text

/-- The outcomes of actions, the first of which has the given number. -/
def outcomes (d : Dispatcher) (net : Network) (c : AlertContext) (index : Nat) :
    List Action → List ActionOutcome
  | [] => []
  | a :: as => ⟨index, a.kind, (d.dispatch net c a).result⟩ :: outcomes d net c (index + 1) as

/-- All actions of an alert carried out. -/
def dispatchAll (d : Dispatcher) (net : Network) (c : AlertContext) (actions : List Action) :
    Dispatch :=
  let runs := actions.map (d.dispatch net c)
  { report := ⟨d.outcomes net c 0 actions⟩
    requests := runs.flatMap (·.requests)
    logs := runs.flatMap (·.logs)
    took := ⟨runs.foldl (fun longest run => max longest run.took.nanoseconds) 0⟩ }

end Dispatcher

end Lookout
