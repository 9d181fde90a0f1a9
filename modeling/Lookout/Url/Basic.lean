/-
Addresses of the web: reading and writing.

Reading brings an address into one form: the scheme and the host in lower case, the default
port left out, steps up in the path taken, and characters that must not stand in a part
encoded.  An address without a scheme is none.
-/
import Lookout.Url.Host

namespace Lookout

/-- A path: parts with a slash before each, or text without structure. -/
inductive UrlPath where
  | parts (ps : List String)
  | flat (text : String)
deriving DecidableEq, Repr

/-- An address. -/
structure Url where
  scheme : String
  /-- The user's name, encoded; empty if there is none. -/
  user : String
  /-- The password, encoded, if there is one. -/
  password : Option String
  host : Option Host
  /-- The port, unless it is the default one of the scheme. -/
  port : Option Nat
  path : UrlPath
  query : Option String
  fragment : Option String
deriving DecidableEq, Repr

namespace Url

/-! ### Schemes -/

/-- The schemes whose addresses have a host and a path with slashes, with their ports. -/
def knownSchemes : List (String × Nat) :=
  [("http", 80), ("https", 443), ("ws", 80), ("wss", 443), ("ftp", 21)]

/-- Whether a scheme is a known one. -/
def isKnown (scheme : String) : Bool :=
  scheme = "file" || (knownSchemes.lookup scheme).isSome

/-- Whether a character may stand in a scheme behind its first letter. -/
def isSchemeChar (c : Char) : Bool :=
  c.isAlphanum || c = '+' || c = '-' || c = '.'

/-- The scheme that a text starts with, in lower case, and what is behind its colon. -/
def readScheme? (cs : List Char) : Option (String × List Char) :=
  let scheme := cs.takeWhile isSchemeChar
  match cs.dropWhile isSchemeChar with
  | ':' :: rest =>
    if scheme.head?.any Char.isAlpha then some (String.ofList (scheme.map Char.toLower), rest)
    else none
  | _ => none

/-! ### Parts of an address -/

/-- Whether a character is a slash; in known schemes a backslash is one too. -/
def isSlash (known : Bool) (c : Char) : Bool :=
  c = '/' || (known && c = '\\')

/-- Whether a character ends what stands between the slashes and the path. -/
def endsAuthority (known : Bool) (c : Char) : Bool :=
  isSlash known c || c = '?' || c = '#'

/-- A text cut in front of its last `@`, if it has one: what is before it, and behind. -/
def cutUserInfo (cs : List Char) : Option (List Char × List Char) :=
  let behind := (cs.reverse.takeWhile (· ≠ '@')).reverse
  if behind.length = cs.length then none
  else some (cs.take (cs.length - behind.length - 1), behind)

/-- The name and the password before an `@`, encoded. -/
def readUserInfo (cs : List Char) : String × Option String :=
  let encoded (part : List Char) := String.ofList (Percent.encode Percent.inUserInfo part)
  let password := (cs.dropWhile (· ≠ ':')).drop 1
  (encoded (cs.takeWhile (· ≠ ':')),
    if password.isEmpty then none else some (encoded password))

/-- The host part of a text, up to a colon outside of brackets, and what is behind it. -/
def cutHost (inBrackets : Bool) : List Char → List Char × List Char
  | [] => ([], [])
  | c :: cs =>
    if c = ':' && !inBrackets then ([], c :: cs)
    else
      let (host, rest) := cutHost (c = '[' || (inBrackets && c ≠ ']')) cs
      (c :: host, rest)

/-- The port behind a host; none if it is empty. -/
def readPort? : List Char → Option (Option Nat)
  | [] => some none
  | ':' :: digits =>
    if digits.isEmpty then some none
    else ((numberIn? 10 digits).filter (· < 65536)).map some
  | _ => none

/-- Whether a part of a path stands for its folder. -/
def isSingleDot (part : List Char) : Bool :=
  let s := String.ofList (part.map Char.toLower)
  s = "." || s = "%2e"

/-- Whether a part of a path stands for the folder above. -/
def isDoubleDot (part : List Char) : Bool :=
  let s := String.ofList (part.map Char.toLower)
  s = ".." || s = ".%2e" || s = "%2e." || s = "%2e%2e"

/-- The parts of a path with its steps taken, behind some parts in reverse order. -/
def walk (before : List String) : List (List Char) → List String
  | [] => before.reverse
  | part :: rest =>
    if isDoubleDot part then walk (if rest.isEmpty then "" :: before.tail else before.tail) rest
    else if isSingleDot part then walk (if rest.isEmpty then "" :: before else before) rest
    else walk (String.ofList (Percent.encode Percent.inPath part) :: before) rest

/-- The parts of a path behind its first slash. -/
def readParts (known : Bool) (cs : List Char) : List String :=
  walk [] (cs.splitOnP (isSlash known))

/-- The path behind a host.  In a known scheme there always is one. -/
def readPath (known : Bool) (cs : List Char) : UrlPath :=
  match cs with
  | [] => .parts (if known then [""] else [])
  | c :: rest => .parts (readParts known (if isSlash known c then rest else c :: rest))

/-- A query and a fragment, if they are there. -/
def readTail (known : Bool) (cs : List Char) : Option String × Option String :=
  let query := cs.takeWhile (· ≠ '#')
  let fragment := (cs.dropWhile (· ≠ '#'))
  ((match query with
    | '?' :: q => some (String.ofList (Percent.encode (Percent.inQuery known) q))
    | _ => none),
   (match fragment with
    | '#' :: f => some (String.ofList (Percent.encode Percent.inFragment f))
    | _ => none))

/-! ### Reading -/

/-- A text cut in front of its query or fragment. -/
def cutTail (cs : List Char) : List Char × List Char :=
  (cs.takeWhile fun c => c ≠ '?' && c ≠ '#', cs.dropWhile fun c => c ≠ '?' && c ≠ '#')

/-- What is behind the two slashes of an address. -/
def readAuthority (scheme : String) (cs : List Char) : Option Url := do
  let known := isKnown scheme
  let authority := cs.takeWhile fun c => !endsAuthority known c
  let (path, tail) := cutTail (cs.dropWhile fun c => !endsAuthority known c)
  let (user, password, hostPort) ←
    match cutUserInfo authority with
    | none => some ("", none, authority)
    | some (info, rest) =>
      let (user, password) := readUserInfo info
      if rest.isEmpty then none else some (user, password, rest)
  let (hostText, portText) := cutHost false hostPort
  if hostText.isEmpty && (known || !portText.isEmpty || user ≠ "" || password.isSome) then none
  else do
    let host ← Host.ofText? known hostText
    let port ← readPort? portText
    let port := if port = knownSchemes.lookup scheme then none else port
    let (query, fragment) := readTail known tail
    some ⟨scheme, user, password, some host, port, readPath known path, query, fragment⟩

/-- The host of a file: the machine itself goes without a name. -/
def readFileHost? (cs : List Char) : Option Host :=
  if cs.isEmpty then some (.name "")
  else (Host.ofText? true cs).map fun h => if h = .name "localhost" then .name "" else h

/-- An address of a file behind its scheme. -/
def readFile (cs : List Char) : Option Url := do
  let (front, tail) := cutTail cs
  let isHostStart := (front.take 2).length = 2 && (front.take 2).all (isSlash true)
  let behind := if isHostStart then front.drop 2 else []
  let host ← readFileHost? (behind.takeWhile fun c => !isSlash true c)
  let path := if isHostStart then behind.dropWhile fun c => !isSlash true c else front
  let parts := match readPath true path with
    | .parts ps => ps
    | .flat text => [text]
  let shortened := parts.dropWhile (· = "")
  let (query, fragment) := readTail true tail
  some ⟨"file", "", none, some host, none,
    .parts (if shortened.isEmpty then [""] else shortened), query, fragment⟩

/-- An address without two slashes behind its scheme. -/
def readPlain (scheme : String) (cs : List Char) : Url :=
  let (front, tail) := cutTail cs
  let (query, fragment) := readTail false tail
  let path := match front with
    | '/' :: rest => .parts (readParts false rest)
    | _ => .flat (String.ofList (Percent.encode Percent.isControl front))
  ⟨scheme, "", none, none, none, path, query, fragment⟩

/-- A text without what is around an address and the breaks in it. -/
def cleaned (cs : List Char) : List Char :=
  let isOuter (c : Char) : Bool := c.toNat ≤ 0x20
  let cs := ((cs.dropWhile isOuter).reverse.dropWhile isOuter).reverse
  cs.filter fun c => c ≠ '\t' && c ≠ '\n' && c ≠ '\r'

/-- The address that a text writes. -/
def ofText? (text : String) : Option Url := do
  let (scheme, rest) ← readScheme? (cleaned text.toList)
  if scheme = "file" then readFile rest
  else if isKnown scheme then readAuthority scheme (rest.dropWhile (isSlash true))
  else match rest with
    | '/' :: '/' :: rest => readAuthority scheme rest
    | _ => some (readPlain scheme rest)

/-! ### Writing -/

/-- The name and the password as text, with an `@`. -/
def userInfoText (u : Url) : String :=
  let password := (u.password.map (":" ++ ·)).getD ""
  if u.user = "" && u.password.isNone then "" else u.user ++ password ++ "@"

/-- The text of a path. -/
def pathText (u : Url) : String :=
  match u.path with
  | .flat text => text
  | .parts ps =>
    let text := String.join (ps.map ("/" ++ ·))
    if u.host.isNone && 1 < ps.length && ps.head? = some "" then "/." ++ text else text

/-- The text of an address. -/
def text (u : Url) : String :=
  let authority := match u.host with
    | none => ""
    | some h =>
      "//" ++ u.userInfoText ++ h.text ++ ((u.port.map fun n => ":" ++ toString n).getD "")
  u.scheme ++ ":" ++ authority ++ u.pathText
    ++ ((u.query.map ("?" ++ ·)).getD "") ++ ((u.fragment.map ("#" ++ ·)).getD "")

end Url

end Lookout
