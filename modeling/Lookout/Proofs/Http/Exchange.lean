/-
Which requests can be built, and what comes of one that is sent.

There is a request of some parts exactly when the address is one of the web that can be sent to and
each header may be sent.  The builder looks at the parts in an order of its own, but all its errors
say that there is no request.  That an address names no host is never what is wrong with one of the
web: its scheme is a known one, and what is read behind a known scheme has a host.

A request that is sent is answered when a response comes before the time is up.  All else is the
one error that no response came.
-/
import Lookout.Http.Network
import Lookout.Proofs.Text.Utf8
import Lookout.Proofs.Url.Below

namespace Lookout

/-! ### Addresses of the web -/

namespace Url

/-- What is behind the slashes of an address keeps its scheme, and gives it the host it reads. -/
theorem readAuthority_host {scheme : String} {cs : List Char} {url : Url}
    (h : readAuthority scheme cs = some url) :
    url.scheme = scheme ∧ ∃ text host, Host.ofText? (isKnown scheme) text = some host ∧
      url.host = some host := by
  unfold readAuthority at h
  simp only [Option.bind_eq_bind] at h
  -- There is a user or there is none; the host is read the same way.
  split at h
  all_goals try split at h
  all_goals
    obtain ⟨parts, -, h⟩ := Option.bind_eq_some_iff.mp h
    split at h
    · cases h
    · obtain ⟨host, read, h⟩ := Option.bind_eq_some_iff.mp h
      obtain ⟨port, -, h⟩ := Option.bind_eq_some_iff.mp h
      cases h
      exact ⟨rfl, _, host, read, rfl⟩

/-- An address of a file is no address of another scheme. -/
theorem readFile_scheme {cs : List Char} {url : Url} (h : readFile cs = some url) :
    url.scheme = "file" := by
  unfold readFile at h
  simp only [Option.bind_eq_bind] at h
  obtain ⟨host, -, h⟩ := Option.bind_eq_some_iff.mp h
  cases h
  rfl

end Url

namespace HttpRequest

/-- The schemes of the web are known ones. -/
theorem isKnown_of_isWeb {url : Url} (web : isWeb url = true) :
    url.scheme ≠ "file" ∧ Url.isKnown url.scheme = true := by
  rcases Bool.or_eq_true_iff.mp web with http | https
  · rw [of_decide_eq_true http]
    decide
  · rw [of_decide_eq_true https]
    decide

/-- An address of the web names a host. -/
theorem namesHost_of_isWeb {text : String} {url : Url} (read : Url.ofText? text = some url)
    (web : isWeb url = true) : namesHost url = true := by
  obtain ⟨notFile, known⟩ := isKnown_of_isWeb web
  unfold Url.ofText? at read
  obtain ⟨⟨scheme, rest⟩, -, read⟩ := Option.bind_eq_some_iff.mp read
  dsimp only at read
  split at read
  · exact absurd (Url.readFile_scheme read) notFile
  split at read
  · case isTrue knownScheme =>
    obtain ⟨-, cs, host, readHost, named⟩ := Url.readAuthority_host read
    rw [knownScheme] at readHost
    rw [namesHost, named]
    exact decide_eq_true fun empty => Host.ofText?_ne_empty (empty ▸ readHost)
  · case isFalse unknown =>
    -- Behind a scheme that is not known stands no address of the web.
    split at read
    · obtain ⟨same, -⟩ := Url.readAuthority_host read
      exact absurd (same ▸ known) unknown
    · cases read
      exact absurd known unknown

/-! ### The user in an address -/

/-- The user and the password leave an address; all else stays as it is. -/
theorem splitUser_fst (url : Url) :
    (splitUser url).1 = url ∨ (splitUser url).1 = { url with user := "", password := none } := by
  unfold splitUser
  split
  · exact .inl rfl
  split
  · exact .inl rfl
  · exact .inr rfl

theorem isWeb_splitUser (url : Url) : isWeb (splitUser url).1 = isWeb url := by
  rcases splitUser_fst url with same | bare
  · rw [same]
  · rw [bare]
    rfl

/-! ### Building -/

/-- A text is an address that requests can be sent to. -/
structure Reaches (address : String) (url : Url) : Prop where
  read : Url.ofText? address = some url
  web : isWeb url = true
  sendable : isSendable (splitUser url).1 = true

variable {method address : String} {headers : List (String × String)} {body : String}

/-- The request of an address and some parts. -/
def ofParts (method : String) (url : Url) (headers : List (String × String)) (body : String) :
    HttpRequest :=
  ⟨method, (splitUser url).1, (splitUser url).2 ++ headers.map sentHeader, body⟩

/-- **A request can be built exactly of an address that requests can be sent to and of headers that
may be sent.** -/
theorem build_eq_ok {request : HttpRequest} :
    build method address headers body = .ok request ↔
      ∃ url, Reaches address url ∧ headers.all isHeader = true ∧
        request = ofParts method url headers body := by
  unfold build
  cases read : Url.ofText? address with
  | none =>
    constructor
    · intro h
      cases h
    · rintro ⟨url, reaches, -⟩
      cases read.symm.trans reaches.read
  | some url =>
    dsimp only
    constructor
    · intro h
      split at h
      · cases h
      split at h
      · cases h
      · case isFalse sent =>
        split at h
        · cases h
        · case isFalse reached =>
          cases h
          simp only [Bool.or_eq_true, Bool.not_eq_true', not_or, Bool.not_eq_false] at sent reached
          exact ⟨url, ⟨read, isWeb_splitUser url ▸ reached.1, reached.2⟩, sent, rfl⟩
    · rintro ⟨_, reaches, sent, rfl⟩
      cases read.symm.trans reaches.read
      -- the check for a host comes first, and an address of the web always passes it
      rw [namesHost_of_isWeb read reaches.web, sent, isWeb_splitUser, reaches.web,
        reaches.sendable]
      rfl

/-- The address that an error of the builder names.  Its user is gone, unless it has no host. -/
def shownAddress (url : Url) : Url :=
  if namesHost url then (splitUser url).1 else url

/-- Where the headers may be sent, it is the address that is wrong. -/
theorem build_eq_error {e : SendError} (sent : headers.all isHeader = true) :
    build method address headers body = .error e ↔
      (Url.ofText? address = none ∧ e = .invalidParts) ∨
      ∃ url, Url.ofText? address = some url ∧
        (isWeb url = false ∨ isSendable (splitUser url).1 = false) ∧
        e = .invalidAddress (shownAddress url) := by
  unfold build shownAddress
  cases read : Url.ofText? address with
  | none => simp [@eq_comm _ e]
  | some url =>
    simp only [reduceCtorEq, false_and, false_or, Option.some.injEq, exists_eq_left']
    cases named : namesHost url with
    | false =>
      -- an address of the web would name one
      have foreign : isWeb url = false := by
        by_contra web
        cases named.symm.trans (namesHost_of_isWeb read (Bool.of_not_eq_false web))
      simp [foreign, @eq_comm _ e]
    | true =>
      rw [sent, isWeb_splitUser]
      cases isWeb url <;> cases isSendable (splitUser url).1 <;> simp [@eq_comm _ e]

end HttpRequest

namespace Network

/-! ### Sending -/

variable {net : Network} {timeout : Duration} {request : HttpRequest}

/-- A request gets a response before the time is up. -/
def Answers (net : Network) (timeout : Duration) (request : HttpRequest)
    (response : HttpResponse) : Prop :=
  (net request).response = some response ∧ (net request).delay.nanoseconds < timeout.nanoseconds

instance (response : HttpResponse) : Decidable (net.Answers timeout request response) :=
  inferInstanceAs (Decidable (_ ∧ _))

/-- There is one answer to a request. -/
theorem Answers.unique {r s : HttpResponse} (hr : net.Answers timeout request r)
    (hs : net.Answers timeout request s) : r = s :=
  Option.some.inj (hr.1.symm.trans hs.1)

/-- A sender has the response that answers the request, or the error that no response came. -/
theorem send_cases (net : Network) (timeout : Duration) (request : HttpRequest) :
    (∃ response, net.Answers timeout request response ∧
      (net.send timeout request).result = .ok response) ∨
    ((∀ response, ¬ net.Answers timeout request response) ∧
      (net.send timeout request).result = .error (.noResponse request.url)) := by
  unfold send
  dsimp only
  by_cases late : timeout.nanoseconds ≤ (net request).delay.nanoseconds
  · refine .inr ⟨fun response answer => Nat.not_le_of_lt answer.2 late, ?_⟩
    rw [if_pos late]
  · rw [if_neg late]
    cases came : (net request).response with
    | some response => exact .inl ⟨response, ⟨came, Nat.lt_of_not_le late⟩, rfl⟩
    | none =>
      refine .inr ⟨fun response answer => ?_, rfl⟩
      cases came.symm.trans answer.1

/-- A sender has the response that answers the request. -/
theorem Answers.send_eq {response : HttpResponse} (answer : net.Answers timeout request response) :
    (net.send timeout request).result = .ok response := by
  rcases net.send_cases timeout request with ⟨other, same, result⟩ | ⟨silent, -⟩
  · rw [answer.unique same, result]
  · exact absurd answer (silent response)

/-- A sender of a request that nothing answers has the error that no response came. -/
theorem send_of_silent (silent : ∀ response, ¬ net.Answers timeout request response) :
    (net.send timeout request).result = .error (.noResponse request.url) := by
  rcases net.send_cases timeout request with ⟨response, answer, -⟩ | ⟨-, result⟩
  · exact absurd answer (silent response)
  · exact result

end Network

/-- The statuses that mean success. -/
theorem HttpResponse.isSuccess_iff {response : HttpResponse} :
    response.isSuccess = true ↔ 200 ≤ response.status ∧ response.status ≤ 299 := by
  rw [isSuccess, Bool.and_eq_true, decide_eq_true_eq, decide_eq_true_eq]

/-! ### Bodies -/

namespace HttpBody

/-- A body that carries a text is read as that text. -/
@[simp]
theorem text?_ofText (text : String) : (ofText text).text? = some text := by
  rw [ofText, text?, decodeUtf8?_flatMap, String.ofList_toList]

/-- A body that carries a text is shown as that text. -/
@[simp]
theorem shown_ofText (text : String) : (ofText text).shown = text := by
  rw [ofText, shown, decodeLossy_flatMap, String.ofList_toList]

end HttpBody

end Lookout
