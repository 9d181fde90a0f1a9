/-
What a search gives.

A search sends one request, unless its address cannot be sent to.  It gives a value exactly when
that request is answered in time, the status means success and the whole body is the text of that
value.  Whatever else happens is a fault of the search at its address, and all of these are one kind
of error.  The reason shows the status of a response that does not mean success, and of what its
body says the first 512 characters, which are counted as characters and not as bytes.

The stages are told apart without the search itself: each fault has one constructor, and either
there is a fault or there is a value.  As the search gives what each stage says, it gives nothing
else.
-/
import Lookout.Error.Watch
import Lookout.Proofs.Http.Exchange
import Lookout.Proofs.Json.RoundTrip

namespace Lookout

namespace SearchClient

open HttpRequest

variable {response : HttpResponse}

/-! ### Reading a response -/

/-- A response holds a value: it means success, and its whole body is the text of the value. -/
def Holds (response : HttpResponse) (v : Value) : Prop :=
  (200 ≤ response.status ∧ response.status ≤ 299) ∧
    ∃ text, response.body.text? = some text ∧ Value.ofJson? text = some v

/-- A response that does not mean success is a fault with its status and what its body shows. -/
theorem decode_of_failure (failure : ¬ (200 ≤ response.status ∧ response.status ≤ 299)) :
    decode response = .error (.status response.status response.body.shown) := by
  rw [← HttpResponse.isSuccess_iff, Bool.not_eq_true] at failure
  rw [decode, failure]
  rfl

/-- The value that a response holds is read in it. -/
theorem decode_of_holds {v : Value} (holds : Holds response v) : decode response = .ok v := by
  rw [decode, HttpResponse.isSuccess_iff.mpr holds.1, Option.bind_eq_some_iff.mpr holds.2]
  rfl

/-- A response that means success and holds no value is a fault of its own. -/
theorem decode_of_unheld (success : 200 ≤ response.status ∧ response.status ≤ 299)
    (unheld : ∀ v, ¬ Holds response v) : decode response = .error .undecodable := by
  cases read : response.body.text?.bind Value.ofJson? with
  | none =>
    rw [decode, HttpResponse.isSuccess_iff.mpr success, read]
    rfl
  | some v => exact absurd ⟨success, Option.bind_eq_some_iff.mp read⟩ (unheld v)

/-- A body that carries a text holds what the text is read as. -/
theorem holds_ofText {status : Nat} {text : String} {v : Value} :
    Holds ⟨status, .ofText text⟩ v ↔
      (200 ≤ status ∧ status ≤ 299) ∧ Value.ofJson? text = some v := by
  simp only [Holds, HttpBody.text?_ofText, Option.some.injEq, exists_eq_left']

/-! ### The stages of an exchange -/

/-- A query is sent to the address of its index, with its body in JSON. -/
def Sends (client : SearchClient) (query : QuerySpec) (request : HttpRequest) : Prop :=
  ∃ url, Reaches (client.searchUrl query.index) url ∧
    request = ofParts "POST" url [jsonHeader] query.body.display

/-- A fault of a query, by the stage where it shows: reading the address, sending to it, waiting for
a response, looking at its status, or reading its body. -/
inductive Fails (client : SearchClient) (net : Network) (query : QuerySpec) :
    QueryFault → Prop where
  | unreadable (bad : Url.ofText? (client.searchUrl query.index) = none) :
      Fails client net query (.unsent .invalidParts)
  | unsendable (url : Url) (read : Url.ofText? (client.searchUrl query.index) = some url)
      (bad : isWeb url = false ∨ isSendable (splitUser url).1 = false) :
      Fails client net query (.unsent (.invalidAddress (shownAddress url)))
  | unanswered (request : HttpRequest) (sends : client.Sends query request)
      (silent : ∀ response, ¬ net.Answers client.timeout request response) :
      Fails client net query (.unsent (.noResponse request.url))
  | turnedDown (request : HttpRequest) (response : HttpResponse)
      (sends : client.Sends query request) (answer : net.Answers client.timeout request response)
      (failure : ¬ (200 ≤ response.status ∧ response.status ≤ 299)) :
      Fails client net query (.status response.status response.body.shown)
  | undecodable (request : HttpRequest) (response : HttpResponse)
      (sends : client.Sends query request) (answer : net.Answers client.timeout request response)
      (success : 200 ≤ response.status ∧ response.status ≤ 299)
      (unheld : ∀ v, ¬ Holds response v) : Fails client net query .undecodable

variable {client : SearchClient} {net : Network} {query : QuerySpec} {request : HttpRequest}

/-- The header of a query may always be sent. -/
theorem isHeader_jsonHeader : [jsonHeader].all isHeader = true := by
  decide

/-- A query is sent as the request that is built of it. -/
theorem sends_iff_build : client.Sends query request ↔
    HttpRequest.build "POST" (client.searchUrl query.index) [jsonHeader] query.body.display
      = .ok request := by
  rw [build_eq_ok, Sends]
  simp only [isHeader_jsonHeader, true_and]

/-- Once there is a response, either a stage behind that fails or the response holds a value. -/
theorem fails_or_held {response : HttpResponse} (sends : client.Sends query request)
    (answer : net.Answers client.timeout request response) :
    (∃ fault, client.Fails net query fault) ∨ ∃ v, Holds response v := by
  by_cases success : 200 ≤ response.status ∧ response.status ≤ 299
  · by_cases held : ∃ v, Holds response v
    · exact .inr held
    · exact .inl ⟨_, .undecodable request response sends answer success (not_exists.mp held)⟩
  · exact .inl ⟨_, .turnedDown request response sends answer success⟩

/-- The stages are followed to the end: there is a fault at one of them, or a value. -/
theorem fails_or_holds (client : SearchClient) (net : Network) (query : QuerySpec) :
    (∃ fault, client.Fails net query fault) ∨
      ∃ request response v, client.Sends query request ∧
        net.Answers client.timeout request response ∧ Holds response v := by
  cases built : HttpRequest.build "POST" (client.searchUrl query.index) [jsonHeader]
      query.body.display with
  | error e =>
    rcases (build_eq_error isHeader_jsonHeader).mp built with ⟨bad, -⟩ | ⟨url, read, bad, -⟩
    · exact .inl ⟨_, .unreadable bad⟩
    · exact .inl ⟨_, .unsendable url read bad⟩
  | ok request =>
    have sends := sends_iff_build.mpr built
    by_cases answered : ∃ response, net.Answers client.timeout request response
    · obtain ⟨response, answer⟩ := answered
      refine (fails_or_held sends answer).imp_right ?_
      rintro ⟨v, holds⟩
      exact ⟨request, response, v, sends, answer, holds⟩
    · exact .inl ⟨_, .unanswered request sends (not_exists.mp answered)⟩

/-! ### What a query gives -/

/-- What is sent of a query is that one request. -/
theorem requests_of_sends (sends : client.Sends query request) :
    (client.run net query).requests = [request] := by
  rw [run, sends_iff_build.mp sends]

/-- Nothing is sent of a query that is not sent as any request. -/
theorem requests_of_unsent (unsent : ∀ request, ¬ client.Sends query request) :
    (client.run net query).requests = [] := by
  cases built : HttpRequest.build "POST" (client.searchUrl query.index) [jsonHeader]
      query.body.display with
  | error e => rw [run, built]
  | ok request => exact absurd (sends_iff_build.mpr built) (unsent request)

/-- Without a request, the result is why there is none. -/
theorem result_of_unbuilt {e : SendError}
    (unbuilt : HttpRequest.build "POST" (client.searchUrl query.index) [jsonHeader]
      query.body.display = .error e) :
    (client.run net query).result
      = .error (.faulty (client.searchUrl query.index) (.unsent e)) := by
  rw [run, unbuilt]

/-- The result is read in the response that comes. -/
theorem result_of_answer {response : HttpResponse} (sends : client.Sends query request)
    (answer : net.Answers client.timeout request response) :
    (client.run net query).result
      = (decode response).mapError (.faulty (client.searchUrl query.index)) := by
  rw [run, sends_iff_build.mp sends]
  dsimp only
  rw [answer.send_eq]

/-- Without a response, that is the result. -/
theorem result_of_silence (sends : client.Sends query request)
    (silent : ∀ response, ¬ net.Answers client.timeout request response) :
    (client.run net query).result
      = .error (.faulty (client.searchUrl query.index) (.unsent (.noResponse request.url))) := by
  rw [run, sends_iff_build.mp sends]
  dsimp only
  rw [Network.send_of_silent silent]
  rfl

/-- A query that fails gives its fault. -/
theorem Fails.result_eq {fault : QueryFault} (fails : client.Fails net query fault) :
    (client.run net query).result = .error (.faulty (client.searchUrl query.index) fault) := by
  cases fails with
  | unreadable bad =>
    exact result_of_unbuilt ((build_eq_error isHeader_jsonHeader).mpr (.inl ⟨bad, rfl⟩))
  | unsendable url read bad =>
    exact result_of_unbuilt
      ((build_eq_error isHeader_jsonHeader).mpr (.inr ⟨url, read, bad, rfl⟩))
  | unanswered request sends silent => exact result_of_silence sends silent
  | turnedDown request response sends answer failure =>
    rw [result_of_answer sends answer, decode_of_failure failure]
    rfl
  | undecodable request response sends answer success unheld =>
    rw [result_of_answer sends answer, decode_of_unheld success unheld]
    rfl

/-- A query whose response holds a value gives that value. -/
theorem result_of_holds {v : Value} (sends : client.Sends query request)
    (answer : net.Answers client.timeout request response) (holds : Holds response v) :
    (client.run net query).result = .ok v := by
  rw [result_of_answer sends answer, decode_of_holds holds]
  rfl

/-- No request is sent but the one that the query is sent as. -/
theorem sends_of_mem (sent : request ∈ (client.run net query).requests) :
    client.Sends query request := by
  by_cases one : ∃ other, client.Sends query other
  · obtain ⟨other, sends⟩ := one
    rw [requests_of_sends sends] at sent
    cases List.mem_singleton.mp sent
    exact sends
  · rw [requests_of_unsent (not_exists.mp one)] at sent
    cases sent

variable (client net query)

/-- There is one request exactly when the query is sent as it. -/
theorem requests_eq_iff :
    (client.run net query).requests = [request] ↔ client.Sends query request :=
  ⟨fun one => sends_of_mem (one ▸ List.mem_singleton.mpr rfl), requests_of_sends⟩

/-- There is no request exactly when the query cannot be sent. -/
theorem requests_eq_nil_iff :
    (client.run net query).requests = [] ↔ ∀ request, ¬ client.Sends query request := by
  refine ⟨fun none request sends => ?_, requests_of_unsent⟩
  cases none.symm.trans (requests_of_sends sends)

/-- A query gives a value exactly when its request is answered by a response that holds it. -/
theorem result_eq_ok_iff {v : Value} : (client.run net query).result = .ok v ↔
    ∃ request response, client.Sends query request ∧
      net.Answers client.timeout request response ∧ Holds response v := by
  constructor
  · intro h
    rcases client.fails_or_holds net query with ⟨fault, fails⟩ | ⟨q, r, w, sends, answer, holds⟩
    · cases h.symm.trans fails.result_eq
    · cases h.symm.trans (result_of_holds sends answer holds)
      exact ⟨q, r, sends, answer, holds⟩
  · rintro ⟨request, response, sends, answer, holds⟩
    exact result_of_holds sends answer holds

/-- A query gives an error exactly when it fails, and the error is its fault at its address. -/
theorem result_eq_error_iff {e : QueryError} : (client.run net query).result = .error e ↔
    ∃ fault, client.Fails net query fault ∧ e = .faulty (client.searchUrl query.index) fault := by
  constructor
  · intro h
    rcases client.fails_or_holds net query with ⟨fault, fails⟩ | ⟨q, r, w, sends, answer, holds⟩
    · cases h.symm.trans fails.result_eq
      exact ⟨fault, fails, rfl⟩
    · cases h.symm.trans (result_of_holds sends answer holds)
  · rintro ⟨fault, fails, rfl⟩
    exact fails.result_eq

/-- The body that a query is sent with is read as the body of the query. -/
theorem ofJson?_body {request : HttpRequest} (sends : client.Sends query request)
    (ordered : query.body.Ordered) (depth : query.body.depth ≤ 127)
    (floats : query.body.FloatsReadBack) : Value.ofJson? request.body = some query.body := by
  obtain ⟨url, -, rfl⟩ := sends
  rw [ofParts, Value.ofJson?, Json.parse_display depth floats]
  exact congrArg some (Value.toValue_toDocument _ ordered)

/-- A backend on this machine can be asked for an index. -/
theorem reaches_local : Reaches (searchUrl ⟨"http://localhost:9200", ⟨5⟩⟩ "logs")
    ⟨"http", "", none, some (.name "localhost"), some 9200, .parts ["logs", "_search"], none,
      none⟩ :=
  ⟨by decide +kernel, by decide, by decide +kernel⟩

/-- **A query gives what the backend answers, and all its errors are of one kind.**  It is sent as
one request if its address can be sent to, and otherwise not at all.  There is a value exactly when
the request is answered in time by a response that means success and whose whole body is the text of
that value, and an error exactly when one of the stages fails.  The reason for a response that does
not mean success shows its status and the first 512 characters of what its body says.  The body of
the query is read back from the body of the request, where this is so of each float in it. -/
theorem run_faithful :
    let run := client.run net query
    let url := client.searchUrl query.index
    (∀ request, run.requests = [request] ↔ client.Sends query request) ∧
    (run.requests = [] ↔ ∀ request, ¬ client.Sends query request) ∧
    (∀ v, run.result = .ok v ↔ ∃ request response, client.Sends query request ∧
      net.Answers client.timeout request response ∧ Holds response v) ∧
    (∀ status text v, Holds ⟨status, .ofText text⟩ v ↔
      (200 ≤ status ∧ status ≤ 299) ∧ Value.ofJson? text = some v) ∧
    (∀ e, run.result = .error e ↔ ∃ fault, client.Fails net query fault ∧ e = .faulty url fault) ∧
    (∀ e, run.result = .error e → (WatchError.cycle (.query e)).kind = .query) ∧
    (∀ request response, client.Sends query request →
      net.Answers client.timeout request response →
      ¬ (200 ≤ response.status ∧ response.status ≤ 299) →
      ∃ e said, run.result = .error e ∧
        e.reason = url ++ ": " ++ ("status " ++ toString response.status ++ ": "
          ++ String.ofList (said.toList.take 512)) ∧
        (∀ text, response.body = .ofText text → said = text) ∧
        (∀ bytes, response.body = .whole bytes → said = decodeLossy bytes) ∧
        (response.body = .broken → said = "")) ∧
    (∀ request ∈ run.requests, query.body.Ordered → query.body.depth ≤ 127 →
      query.body.FloatsReadBack → Value.ofJson? request.body = some query.body) := by
  refine ⟨fun _ => client.requests_eq_iff net query, client.requests_eq_nil_iff net query,
    fun _ => client.result_eq_ok_iff net query, fun _ _ _ => holds_ofText,
    fun _ => client.result_eq_error_iff net query, fun _ _ => rfl, ?_,
    fun _ sent => client.ofJson?_body query (sends_of_mem sent)⟩
  intro request response sends answer failure
  have fails := Fails.turnedDown request response sends answer failure
  refine ⟨_, response.body.shown, fails.result_eq, rfl, ?_, ?_, ?_⟩
  · intro text body
    rw [body, HttpBody.shown_ofText]
  · intro bytes body
    rw [body]
    rfl
  · intro body
    rw [body]
    rfl

/-- Of a long answer that is no success, 512 characters are shown, however many bytes they are. -/
theorem run_faithful_long :
    let client : SearchClient := ⟨"http://localhost:9200", ⟨5⟩⟩
    let query : QuerySpec := ⟨"logs", .map [("size", .number (.int 0 (by decide)))]⟩
    let said := String.ofList (List.replicate 600 'é')
    let net : Network := fun _ => ⟨⟨4⟩, some ⟨503, said⟩⟩
    let run := client.run net query
    ∃ e request, run.result = .error e ∧ run.requests = [request] ∧
      e.reason = client.searchUrl query.index ++ ": " ++ ("status " ++ toString 503 ++ ": "
        ++ String.ofList (List.replicate 512 'é')) ∧
      Value.ofJson? request.body = some query.body := by
  intro client query said net run
  have sends : client.Sends query _ := ⟨_, reaches_local, rfl⟩
  obtain ⟨one, -, -, -, -, -, failed, kept⟩ := client.run_faithful net query
  have sent := (one _).mpr sends
  obtain ⟨e, shown, result, reason, same, -⟩ :=
    failed _ ⟨503, said⟩ sends ⟨rfl, by decide⟩ (by decide)
  have floats : query.body.FloatsReadBack := ⟨fun _ _ h => (by cases h), trivial⟩
  have whole := kept _ (sent ▸ List.mem_singleton.mpr rfl)
    ⟨List.pairwise_singleton _ _, trivial, trivial⟩ (by decide) floats
  have cut : shown.toList.take 512 = List.replicate 512 'é' := by
    rw [same said rfl, String.toList_ofList, List.take_replicate, Nat.min_eq_left (by decide)]
  exact ⟨e, _, result, sent, by rw [reason, cut], whole⟩

/-- A float in the body of a query may be sent with few digits, which are read as the float next to
it: the body that is read in the request is not the body of the query. -/
theorem body_astray :
    let client : SearchClient := ⟨"http://localhost:9200", ⟨5⟩⟩
    let query : QuerySpec := ⟨"logs", .map [("size", .number (.float 3e23 (by decide +kernel)))]⟩
    ∃ request, (client.run Network.unreachable query).requests = [request] ∧
      query.body.Ordered ∧ query.body.depth ≤ 127 ∧ request.body = "\x7b\"size\":3e+23\x7d" ∧
      (Value.ofJson? request.body).map Value.display
        = some "\x7b\"size\":2.9999999999999997e+23\x7d" ∧
      Value.ofJson? request.body ≠ some query.body := by
  intro client query
  have sends : client.Sends query _ := ⟨_, reaches_local, rfl⟩
  have shown : query.body.display = "\x7b\"size\":3e+23\x7d" := by decide +kernel
  have again : (Value.ofJson? "\x7b\"size\":3e+23\x7d").map Value.display
      = some "\x7b\"size\":2.9999999999999997e+23\x7d" := by decide +kernel
  refine ⟨_, requests_of_sends sends, ⟨List.pairwise_singleton _ _, trivial, trivial⟩, by decide,
    shown, ?_, ?_⟩
  · rw [ofParts, shown, again]
  · intro same
    rw [ofParts, shown] at same
    rw [same, Option.map_some, shown] at again
    exact absurd again (by decide)

end SearchClient
end Lookout
