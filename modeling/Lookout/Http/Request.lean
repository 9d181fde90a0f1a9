/-
Requests of the web, and why one cannot be built.

A request is built from texts.  The address has to be one of the web, header names have to be
tokens and header values free of controls.  A user name and password in the address move into
a header.
-/
import Lookout.Http.Token
import Lookout.Text.Base64
import Lookout.Url.Basic

namespace Lookout

/-- A request.  Header names are in lower case. -/
structure HttpRequest where
  method : String
  url : Url
  headers : List (String × String)
  body : String
deriving DecidableEq, Repr

/-- Why there is no response to a request. -/
inductive SendError where
  /-- There is no request: its parts are not valid. -/
  | invalidParts
  /-- There is no request: nothing can be sent to the address. -/
  | invalidAddress (url : Url)
  /-- No response came in time. -/
  | noResponse (url : Url)
deriving DecidableEq, Repr

namespace SendError

/-- The error in words. -/
def message : SendError → String
  | invalidParts => "builder error"
  | invalidAddress url => "builder error for url (" ++ url.text ++ ")"
  | noResponse url => "error sending request for url (" ++ url.text ++ ")"

/-- Whether nothing was sent. -/
def isUnbuilt : SendError → Bool
  | noResponse _ => false
  | _ => true

end SendError

namespace HttpRequest

/-- Whether a header value may be sent: tabs are the only controls in it. -/
def isHeaderValue (value : String) : Bool :=
  value.toList.all fun c => c = '\t' || (0x20 ≤ c.toNat && c.toNat ≠ 0x7F)

/-- Whether a header may be sent. -/
def isHeader (header : String × String) : Bool :=
  isToken header.1 && isHeaderValue header.2

/-- A header as sent: its name in lower case. -/
def sentHeader (header : String × String) : String × String :=
  (String.ofList (header.1.toList.map Char.toLower), header.2)

/-- The greatest length of an address that can be sent. -/
def maxAddressLength : Nat := 65534

/-- Whether a request can be sent to an address of the web. -/
def isSendable (url : Url) : Bool :=
  let named := match url.host with
    | some (.name s) => !s.toList.any "\"`\x7b\x7d".toList.contains
    | _ => true
  named && url.text.utf8ByteSize ≤ maxAddressLength

/-- Whether an address is one of the web. -/
def isWeb (url : Url) : Bool :=
  url.scheme = "http" || url.scheme = "https"

/-- Whether an address names a host. -/
def namesHost (url : Url) : Bool :=
  url.host.any (· ≠ .name "")

/-- The header that carries a user name and a password. -/
def authorization (user : String) (password : Option String) : String × String :=
  let decoded := (password.bind fun p => decodeUtf8? (Percent.decode p.toList)).getD ""
  let bytes := (user ++ ":" ++ decoded).toList.flatMap utf8Bytes
  ("authorization", "Basic " ++ String.ofList (Base64.encode bytes))

/-- An address without user name and password, and the header that carries them.  A name that
is not text stays where it is. -/
def splitUser (url : Url) : Url × List (String × String) :=
  if url.user = "" && url.password.isNone then (url, [])
  else match decodeUtf8? (Percent.decode url.user.toList) with
    | none => (url, [])
    | some user =>
      ({ url with user := "", password := none }, [authorization user url.password])

/-- The request of some parts.  That an address has no host at all is told before a bad header,
any other fault of an address behind it. -/
def build (method address : String) (headers : List (String × String)) (body : String) :
    Except SendError HttpRequest :=
  match Url.ofText? address with
  | none => .error .invalidParts
  | some url =>
    if !namesHost url then .error (.invalidAddress url)
    else
      let (bare, carried) := splitUser url
      if !headers.all isHeader then .error .invalidParts
      else if !isWeb bare || !isSendable bare then .error (.invalidAddress bare)
      else .ok ⟨method, bare, carried ++ headers.map sentHeader, body⟩

end HttpRequest

end Lookout
