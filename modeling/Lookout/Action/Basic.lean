/-
The actions an alert takes when its condition matches: write a log record, send an HTTP
request, or post a message to the chat webhook.
-/
import Lookout.Text.Quoted

namespace Lookout

/-- The kinds of action. -/
inductive ActionKind where
  | log | http | slack
deriving DecidableEq, Repr

/-- The name of a kind, as an alert file writes it. -/
def ActionKind.name : ActionKind → String
  | .log => "log"
  | .http => "http"
  | .slack => "slack"

/-- The kind of a name. -/
def ActionKind.ofName? (name : String) : Option ActionKind :=
  [ActionKind.log, .http, .slack].find? fun kind => kind.name = name

/-- An HTTP request to send.  The headers are in the order of their names. -/
structure HttpAction where
  method : String
  url : String
  headers : List (String × String)
  body : String
deriving DecidableEq, Repr

/-- One action. -/
inductive Action where
  | log (message : String)
  | http (request : HttpAction)
  | slack (text : String)
deriving DecidableEq, Repr

namespace Action

/-- The kind of an action. -/
def kind : Action → ActionKind
  | log _ => .log
  | http _ => .http
  | slack _ => .slack

/-- An action in one phrase. -/
def display : Action → String
  | log message => "log(" ++ quoted message ++ ")"
  | http request => "http(" ++ request.method ++ " " ++ request.url ++ ")"
  | slack _ => "slack"

end Action

end Lookout
