/-
Reading JSON text into a document.

The grammar is the standard one, read left to right without backtracking, so the first fault
is the fault of the text.  Arrays and objects may be nested 127 deep.  The fuel bounds the
recursion and is never used up: each step consumes a character.
-/
import Lookout.Json.Document
import Lookout.Text.Digit

namespace Lookout
namespace Json

/-- Whether a character may stand between the tokens. -/
def isSpace (c : Char) : Bool :=
  c = ' ' || c = '\n' || c = '\t' || c = '\r'

/-- The text from the next token on. -/
def skipSpace (cs : List Char) : List Char :=
  cs.dropWhile isSpace

/-- The four hexadecimal digits of an escape. -/
def readHexFour : List Char → Except Stop (Nat × List Char)
  | a :: b :: c :: d :: rest =>
    match hexValue? a, hexValue? b, hexValue? c, hexValue? d with
    | some w, some x, some y, some z => .ok (w * 4096 + x * 256 + y * 16 + z, rest)
    | _, _, _, _ => stopAfter .invalidEscape rest
  | _ => stopAfter .endInString []

/-- A code point escape after its `u`; a leading surrogate takes the escape behind it. -/
def readCodePoint (cs : List Char) : Except Stop (Char × List Char) := do
  let (n, cs) ← readHexFour cs
  if 0xDC00 ≤ n && n ≤ 0xDFFF then stopAfter .loneSurrogate cs
  else if 0xD800 ≤ n && n ≤ 0xDBFF then
    match cs with
    | [] => stopAfter .endInString []
    | '\\' :: [] => stopAfter .endInString []
    | '\\' :: 'u' :: cs =>
      let (m, cs) ← readHexFour cs
      if 0xDC00 ≤ m && m ≤ 0xDFFF then
        .ok (Char.ofNat (0x10000 + (n - 0xD800) * 1024 + (m - 0xDC00)), cs)
      else stopAfter .loneSurrogate cs
    | '\\' :: _ :: cs => stopAfter .endOfHexEscape cs
    | _ :: cs => stopAfter .endOfHexEscape cs
  else .ok (Char.ofNat n, cs)

/-- The character of an escape after its backslash. -/
def readEscape : List Char → Except Stop (Char × List Char)
  | [] => stopAfter .endInString []
  | c :: cs =>
    match c with
    | '"' => .ok ('"', cs)
    | '\\' => .ok ('\\', cs)
    | '/' => .ok ('/', cs)
    | 'b' => .ok ('\x08', cs)
    | 'f' => .ok ('\x0c', cs)
    | 'n' => .ok ('\n', cs)
    | 'r' => .ok ('\r', cs)
    | 't' => .ok ('\t', cs)
    | 'u' => readCodePoint cs
    | _ => stopAfter .invalidEscape cs

/-- The characters of a string up to its closing quote. -/
def readString : Nat → List Char → Except Stop (List Char × List Char)
  | 0, cs => stopAfter .endInString cs
  | _ + 1, [] => stopAfter .endInString []
  | fuel + 1, c :: cs =>
    if c = '"' then .ok ([], cs)
    else if c = '\\' then do
      let (d, cs) ← readEscape cs
      let (ds, cs) ← readString fuel cs
      .ok (d :: ds, cs)
    else if c.toNat < 32 then stopAfter .controlCharacter cs
    else do
      let (ds, cs) ← readString fuel cs
      .ok (c :: ds, cs)

/-- A string after its opening quote. -/
def readQuoted (cs : List Char) : Except Stop (String × List Char) := do
  let (s, cs) ← readString (cs.length + 1) cs
  .ok (String.ofList s, cs)

/-- The rest of a word such as `null`. -/
def readWord : List Char → List Char → Except Stop (Unit × List Char)
  | [], cs => .ok ((), cs)
  | _ :: _, [] => stopAfter .endInValue []
  | w :: ws, c :: cs => if c = w then readWord ws cs else stopAfter .expectedIdent cs

/-- The text after the colon of an object member. -/
def readColon (cs : List Char) : Except Stop (List Char) :=
  match skipSpace cs with
  | [] => stopBefore .endInObject []
  | c :: cs => if c = ':' then .ok cs else stopBefore .expectedColon (c :: cs)

mutual

/-- A value; `depth` is how many arrays and objects may still be opened, and one more. -/
def readValue : Nat → Nat → List Char → Except Stop (JsonDocument × List Char)
  | 0, _, cs => stopBefore .endInValue cs
  | fuel + 1, depth, cs =>
    match skipSpace cs with
    | [] => stopBefore .endInValue []
    | c :: cs =>
      if c = 'n' then do
        let (_, cs) ← readWord ['u', 'l', 'l'] cs
        .ok (.null, cs)
      else if c = 't' then do
        let (_, cs) ← readWord ['r', 'u', 'e'] cs
        .ok (.bool true, cs)
      else if c = 'f' then do
        let (_, cs) ← readWord ['a', 'l', 's', 'e'] cs
        .ok (.bool false, cs)
      else if c = '"' then do
        let (s, cs) ← readQuoted cs
        .ok (.string s, cs)
      else if c = '[' then
        if depth ≤ 1 then stopBefore .tooDeep (c :: cs)
        else do
          let (items, cs) ← readItems fuel (depth - 1) true cs
          .ok (.array items, cs)
      else if c = '{' then
        if depth ≤ 1 then stopBefore .tooDeep (c :: cs)
        else do
          let (members, cs) ← readMembers fuel (depth - 1) true cs
          .ok (.object members, cs)
      else if c = '-' then do
        let (n, cs) ← readNumber true cs
        .ok (.number n, cs)
      else if c.isDigit then do
        let (n, cs) ← readNumber false (c :: cs)
        .ok (.number n, cs)
      else stopBefore .expectedValue (c :: cs)

/-- The items of an array up to its closing bracket; `first` when none was read yet. -/
def readItems : Nat → Nat → Bool → List Char → Except Stop (List JsonDocument × List Char)
  | 0, _, _, cs => stopBefore .endInList cs
  | fuel + 1, depth, first, cs =>
    match skipSpace cs with
    | [] => stopBefore .endInList []
    | c :: cs =>
      if c = ']' then .ok ([], cs)
      else if first then do
        let (item, cs) ← readValue fuel depth (c :: cs)
        let (items, cs) ← readItems fuel depth false cs
        .ok (item :: items, cs)
      else if c = ',' then
        match skipSpace cs with
        | [] => stopBefore .endInValue []
        | d :: ds =>
          if d = ']' then stopBefore .trailingComma (d :: ds)
          else do
            let (item, cs) ← readValue fuel depth (d :: ds)
            let (items, cs) ← readItems fuel depth false cs
            .ok (item :: items, cs)
      else stopBefore .expectedListComma (c :: cs)

/-- The members of an object up to its closing brace; `first` when none was read yet. -/
def readMembers : Nat → Nat → Bool → List Char → Except Stop (List (String × JsonDocument) × List Char)
  | 0, _, _, cs => stopBefore .endInObject cs
  | fuel + 1, depth, first, cs =>
    match skipSpace cs with
    | [] => stopBefore .endInObject []
    | c :: cs =>
      if c = '}' then .ok ([], cs)
      else if first then
        if c = '"' then do
          let (name, cs) ← readQuoted cs
          let cs ← readColon cs
          let (member, cs) ← readValue fuel depth cs
          let (members, cs) ← readMembers fuel depth false cs
          .ok ((name, member) :: members, cs)
        else stopBefore .keyMustBeString (c :: cs)
      else if c = ',' then
        match skipSpace cs with
        | [] => stopBefore .endInValue []
        | d :: ds =>
          if d = '"' then do
            let (name, cs) ← readQuoted ds
            let cs ← readColon cs
            let (member, cs) ← readValue fuel depth cs
            let (members, cs) ← readMembers fuel depth false cs
            .ok ((name, member) :: members, cs)
          else if d = '}' then stopBefore .trailingComma (d :: ds)
          else stopBefore .keyMustBeString (d :: ds)
      else stopBefore .expectedObjectComma (c :: cs)

end

/-- The deepest nesting of arrays and objects, and one more. -/
def depthBound : Nat := 128

/-- A whole text: one value with nothing but space around it. -/
def readText (cs : List Char) : Except Stop JsonDocument := do
  let (document, rest) ← readValue (2 * cs.length + 2) depthBound cs
  match skipSpace rest with
  | [] => .ok document
  | c :: cs => stopBefore .trailingCharacters (c :: cs)

/-- A fault and its place in the text. -/
structure Error where
  fault : Fault
  line : Nat
  column : Nat
deriving Repr

/-- The column, in bytes, after the last line break of a text. -/
def columnAfter (cs : List Char) : Nat :=
  (cs.reverse.takeWhile (· ≠ '\n')).foldl (fun n c => n + c.utf8Size) 0

/-- The place where reading stopped: lines count from one, columns in bytes; a fault in the
next character is placed behind its first byte. -/
def Stop.place (stop : Stop) (cs : List Char) : Error :=
  let consumed := cs.take (cs.length - stop.rest.length)
  let line := consumed.count '\n' + 1
  let column := columnAfter consumed
  match stop.ahead, stop.rest with
  | true, c :: _ => if c = '\n' then ⟨stop.fault, line + 1, 0⟩ else ⟨stop.fault, line, column + 1⟩
  | _, _ => ⟨stop.fault, line, column⟩

/-- The document that a text holds. -/
def parse (text : String) : Except Error JsonDocument :=
  let cs := text.toList
  match readText cs with
  | .ok document => .ok document
  | .error stop => .error (stop.place cs)

/-- What a fault is called. -/
def Fault.message : Fault → String
  | .endInList => "EOF while parsing a list"
  | .endInObject => "EOF while parsing an object"
  | .endInString => "EOF while parsing a string"
  | .endInValue => "EOF while parsing a value"
  | .expectedColon => "expected `:`"
  | .expectedListComma => "expected `,` or `]`"
  | .expectedObjectComma => "expected `,` or `\x7d`"
  | .expectedIdent => "expected ident"
  | .expectedValue => "expected value"
  | .invalidEscape => "invalid escape"
  | .invalidNumber => "invalid number"
  | .numberOutOfRange => "number out of range"
  | .controlCharacter => "control character (\\u0000-\\u001F) found while parsing a string"
  | .keyMustBeString => "key must be a string"
  | .loneSurrogate => "lone leading surrogate in hex escape"
  | .trailingComma => "trailing comma"
  | .trailingCharacters => "trailing characters"
  | .endOfHexEscape => "unexpected end of hex escape"
  | .tooDeep => "recursion limit exceeded"

/-- The text of an error: the fault, then its place. -/
def Error.message (e : Error) : String :=
  e.fault.message ++ " at line " ++ toString e.line ++ " column " ++ toString e.column

end Json

namespace Value

/-- The value that a JSON text holds, decoded directly. -/
def ofJson? (text : String) : Option Value :=
  (Json.parse text).toOption.map JsonDocument.toValue

end Value

end Lookout
