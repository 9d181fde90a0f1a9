/-
What becomes of actions that send a request.

A request action is refused when no request can be made of its parts, and then nothing is sent.
All else depends on what comes back: the action fails for want of a response, fails with the status
of one that does not mean success, or is done.  A chat message is refused without a webhook first,
and without a text second; any response to the one request it sends will do.

For both, the result of sending is read off the one fact whether the request is answered in time.
-/
import Lookout.Action.Dispatch
import Lookout.Proofs.Http.Exchange
import Lookout.Proofs.Json.RoundTrip

namespace Lookout

open HttpRequest

namespace Dispatcher

variable {d : Dispatcher} {net : Network} {request : HttpRequest}
  {judge : HttpResponse → Except ActionError Unit}

/-! ### Requests sent -/

end Dispatcher

namespace HttpAction

/-! ### Request actions -/

variable {a : HttpAction}

end HttpAction

namespace SendError

end SendError

namespace Dispatcher

variable (d : Dispatcher) (net : Network) {a : HttpAction}

variable {endpoint text : String} {url : Url} (timeout : Duration)

end Dispatcher

end Lookout
