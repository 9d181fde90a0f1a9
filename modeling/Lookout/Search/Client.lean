/-
Asking the search backend.

The backend's address is brought into one form first: without white space around it and
without slashes at its end, and with a scheme.  A query is a request to the index below that
address; whatever goes wrong with it is one kind of error.
-/
import Lookout.Http.Network
import Lookout.Json.Reader
import Lookout.Search.Query
import Lookout.Text.Blank

namespace Lookout

/-- Access to a search backend. -/
structure SearchClient where
  /-- The address that the paths of indices are added to. -/
  baseUrl : String
  timeout : Duration
deriving DecidableEq, Repr

/-- Why a query has no result. -/
inductive QueryFault where
  | unsent (e : SendError)
  | status (code : Nat) (body : String)
  /-- The response is not JSON. -/
  | undecodable
deriving DecidableEq, Repr

/-- Why a search backend gives no result. -/
inductive QueryError where
  /-- A fault of the query to an address. -/
  | faulty (url : String) (fault : QueryFault)
  /-- The backend turned the query down, in its own words. -/
  | rejected (reason : String)
deriving DecidableEq, Repr

/-- How much of a response an error shows, in characters. -/
def shownResponseLength : Nat := 512

/-- A fault in words. -/
def QueryFault.reason : QueryFault → String
  | unsent e => e.message
  | status code body =>
    "status " ++ toString code ++ ": " ++ String.ofList (body.toList.take shownResponseLength)
  | undecodable => "invalid response body: error decoding response body"

/-- The reason in words. -/
def QueryError.reason : QueryError → String
  | faulty url fault => url ++ ": " ++ fault.reason
  | rejected reason => reason

/-- What came of a query: a value or an error, the request that was sent, if one was, and how
long it took. -/
structure QueryRun where
  result : Except QueryError Value
  requests : List HttpRequest
  took : Duration

/-- What answers queries. -/
abbrev SearchBackend : Type := QuerySpec → QueryRun

namespace SearchClient

/-- Whether a character is a slash. -/
def isSlash (c : Char) : Bool :=
  c = '/'

/-- Whether an address already has a scheme. -/
def hasScheme (address : List Char) : Bool :=
  "http://".toList.isPrefixOf address || "https://".toList.isPrefixOf address

/-- The base address that an address stands for, unless it is empty. -/
def baseUrl? (address : String) : Option String :=
  let trimmed := Text.trimEnd isSlash (Text.trim isBlank address.toList)
  if trimmed.isEmpty then none
  else some (String.ofList (if hasScheme trimmed then trimmed else "http://".toList ++ trimmed))

/-- Access to the backend at an address, unless that is empty. -/
def new? (address : String) (timeout : Duration) : Option SearchClient :=
  (baseUrl? address).map fun baseUrl => ⟨baseUrl, timeout⟩

/-- The address of an index. -/
def searchUrl (client : SearchClient) (index : String) : String :=
  client.baseUrl ++ "/" ++ String.ofList (Text.trim isSlash index.toList) ++ "/_search"

/-- The header of a body in JSON. -/
def jsonHeader : String × String := ("content-type", "application/json")

/-- The value of a response. -/
def decode (response : HttpResponse) : Except QueryFault Value :=
  if !response.isSuccess then .error (.status response.status response.body.shown)
  else match response.body.text?.bind Value.ofJson? with
    | some v => .ok v
    | none => .error .undecodable

/-- A query sent to the backend. -/
def run (client : SearchClient) (net : Network) (query : QuerySpec) : QueryRun :=
  let url := client.searchUrl query.index
  match HttpRequest.build "POST" url [jsonHeader] query.body.display with
  | .error e => ⟨.error (.faulty url (.unsent e)), [], ⟨0⟩⟩
  | .ok request =>
    let exchange := net.send client.timeout request
    let result : Except QueryFault Value := match exchange.result with
      | .error e => .error (.unsent e)
      | .ok response => decode response
    ⟨result.mapError (.faulty url), [request], exchange.took⟩

end SearchClient

end Lookout
