/-
What the world answers to requests.

A network is a function: the answer to a request depends on the request alone, and comes
after a delay or not at all.  A sender waits for a limited time.  A response is there with its
status; its body is read afterwards, and may turn out to end too early or not to be text.

What is between a request and its answer is one exchange.  A response that redirects to another
place makes the client send a request there, and so on for a few times.  These further requests are
part of the exchange and are not told apart in it: the answer is the one at the end, the delay is
that of all of them, and the request is the first one, which is the one that was asked for.
-/
import Lookout.Http.Request
import Lookout.Text.Duration

namespace Lookout

/-- The body of a response. -/
inductive HttpBody where
  | whole (bytes : List Nat)
  /-- It broke off, or the time was up before its end. -/
  | broken
deriving DecidableEq, Repr

namespace HttpBody

/-- The body that a text is sent as. -/
def ofText (text : String) : HttpBody :=
  .whole (text.toList.flatMap utf8Bytes)

instance : Coe String HttpBody := ⟨ofText⟩

/-- The text of a body, if all of it came and is valid. -/
def text? : HttpBody → Option String
  | whole bytes => decodeUtf8? bytes
  | broken => none

/-- What is shown of a body: its text with invalid parts replaced, and nothing of a body that
broke off. -/
def shown : HttpBody → String
  | whole bytes => decodeLossy bytes
  | broken => ""

end HttpBody

/-- The response at the end of an exchange.  One with the status of a redirect is at the end only
where it leads nowhere.  Its headers are not looked at but for that, and its body is in UTF-8. -/
structure HttpResponse where
  status : Nat
  body : HttpBody
deriving DecidableEq, Repr

/-- Whether a status means success. -/
def HttpResponse.isSuccess (r : HttpResponse) : Bool :=
  200 ≤ r.status && r.status ≤ 299

/-- What comes back for a request: a response, or nothing, after the delay of the exchange. -/
structure HttpReply where
  delay : Duration
  response : Option HttpResponse

/-- The answers to all requests, each at the end of its exchange: redirects have been followed, or
there were none.  An exchange that ends in an error of the client has no response. -/
abbrev Network : Type := HttpRequest → HttpReply

namespace Network

/-- The network that is not there. -/
def unreachable : Network := fun _ => ⟨⟨0⟩, none⟩

/-- What a sender has of a request: a response or an error, and how long it took. -/
structure Exchange where
  result : Except SendError HttpResponse
  took : Duration

/-- A request sent by a sender who waits for a limited time. -/
def send (net : Network) (timeout : Duration) (request : HttpRequest) : Exchange :=
  let reply := net request
  if timeout.nanoseconds ≤ reply.delay.nanoseconds then
    ⟨.error (.noResponse request.url), timeout⟩
  else match reply.response with
    | some response => ⟨.ok response, reply.delay⟩
    | none => ⟨.error (.noResponse request.url), reply.delay⟩

end Network

end Lookout
