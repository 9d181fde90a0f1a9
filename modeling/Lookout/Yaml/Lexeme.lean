/-
The words of a document.

Scalars are read here into the text they stand for: folded, unquoted and unescaped, and with
the indentation of block text removed.  Each reader takes a place in the text and gives the
word and the place behind it, or nothing if the text is malformed there.
-/
import Lookout.Yaml.Cursor
import Lookout.Text.Digit
import Lookout.Text.Utf8

namespace Lookout.Yaml

/-- A word of a document. -/
inductive Lexeme where
  | version (major minor : Nat)
  | tagHandle (handle start : String)
  | documentStart
  | documentEnd
  | blockSequence
  | blockMapping
  | blockEnd
  | flowSequence
  | flowSequenceEnd
  | flowMapping
  | flowMappingEnd
  | blockItem
  | flowItem
  | key
  | value
  | aliasOf (name : String)
  | anchor (name : String)
  /-- A tag: the handle that stands for its beginning, and the rest of it. -/
  | tag (handle suffix : String)
  /-- A scalar; `plain` if it is neither quoted nor block text. -/
  | scalar (plain : Bool) (text : String)
deriving Inhabited, DecidableEq

namespace Lexeme

/-! ### The gap between two words of one scalar -/

/-- Spaces and line breaks inside a scalar. -/
structure Gap where
  /-- Whether a line has ended. -/
  broken : Bool
  /-- The spaces and tabs, as long as none has. -/
  spaces : List Char
  /-- The first line break. -/
  lead : List Char
  /-- The line breaks behind it. -/
  trail : List Char

/-- No gap. -/
def Gap.none : Gap := ⟨false, [], [], []⟩

/-- What a gap reads as: a single line feed becomes a space, of several the first is
dropped. -/
def Gap.text (g : Gap) : List Char :=
  if !g.broken then g.spaces
  else if g.lead = ['\n'] then (if g.trail.isEmpty then [' '] else g.trail)
  else g.lead ++ g.trail

/-- The gap at a place.  Before the column `margin` no tab may stand on a later line. -/
def readGap (margin : Nat) : Nat → Gap → Cursor → Option (Gap × Cursor)
  | 0, g, k => some (g, k)
  | fuel + 1, g, k =>
    match k.rest with
    | [] => some (g, k)
    | c :: _ =>
      if isGap c then
        if !g.broken then readGap margin fuel { g with spaces := g.spaces ++ [c] } (k.skip 1)
        else if k.column < margin && c = '\t' then .none
        else readGap margin fuel g (k.skip 1)
      else if isBreak c then
        let (text, next) := k.lineBreak
        if g.broken then readGap margin fuel { g with trail := g.trail ++ text } next
        else readGap margin fuel ⟨true, [], text, []⟩ next
      else some (g, k)

/-! ### Plain scalars -/

/-- Whether a character opens, closes or parts flow collections. -/
def isFlowMark (c : Char) : Bool :=
  c = ',' || c = '[' || c = ']' || c = '{' || c = '}'

/-- The characters of a plain scalar up to the next gap or its end. -/
def plainRun (flow : Bool) : List Char → Option (List Char)
  | [] => some []
  | c :: cs =>
    if isSpacing c then some []
    else if flow && c = ':' && cs.head?.any (fun d => isFlowMark d || d = '?') then none
    else if (c = ':' && wordEnds cs) || (flow && isFlowMark c) then some []
    else (plainRun flow cs).map (c :: ·)

/-- The rest of a plain scalar, the place behind it, and whether the line has ended since its
last character.  Outside flow collections it ends before the column `margin`. -/
def readPlain (flow : Bool) (margin : Nat) :
    Nat → Gap → Cursor → Option (List Char × Cursor × Bool)
  | 0, g, k => some ([], k, g.broken)
  | fuel + 1, g, k =>
    if k.atDocumentMark || k.sees (· = '#') then some ([], k, g.broken)
    else do
      let cs ← plainRun flow k.rest
      let (before, g) := if cs.isEmpty then ([], g) else (g.text ++ cs, Gap.none)
      let k := k.skip cs.length
      if !k.sees isSpacing then some (before, k, g.broken)
      else do
        let (g, k) ← readGap margin (k.rest.length + 1) Gap.none k
        if !flow && k.column < margin then some (before, k, g.broken)
        else do
          let (after, k, broken) ← readPlain flow margin fuel g k
          some (before ++ after, k, broken)

/-! ### Quoted scalars -/

/-- The character that a one letter escape stands for. -/
def escaped? : Char → Option Char
  | '0' => some '\x00'
  | 'a' => some '\x07'
  | 'b' => some '\x08'
  | 't' | '\t' => some '\t'
  | 'n' => some '\n'
  | 'v' => some '\x0b'
  | 'f' => some '\x0c'
  | 'r' => some '\r'
  | 'e' => some '\x1b'
  | ' ' => some ' '
  | '"' => some '"'
  | '/' => some '/'
  | '\\' => some '\\'
  | 'N' => some '\u0085'
  | '_' => some '\u00a0'
  | 'L' => some '\u2028'
  | 'P' => some '\u2029'
  | _ => none

/-- How many hexadecimal digits follow the letter of an escape by number. -/
def hexDigits? : Char → Option Nat
  | 'x' => some 2
  | 'u' => some 4
  | 'U' => some 8
  | _ => none

/-- The character with a number, if there is one. -/
def charOf? (n : Nat) : Option Char :=
  if n.isValidChar then some (Char.ofNat n) else none

/-- The escape behind a backslash: its character, and how long it is. -/
def readEscape? : List Char → Option (Char × Nat)
  | [] => none
  | c :: cs =>
    match escaped? c with
    | some d => some (d, 1)
    | none => do
      let n ← hexDigits? c
      let digits := cs.take n
      if digits.length < n then none
      else do
        let number ← numberIn? 16 digits
        let d ← charOf? number
        some (d, n + 1)

/-- The characters of a quoted scalar up to the next gap or its end, and whether they end in
an escaped line break, which is passed. -/
def quotedRun (quote : Char) : Nat → Cursor → Option (List Char × Cursor × Bool)
  | 0, k => some ([], k, false)
  | fuel + 1, k =>
    match k.rest with
    | [] => some ([], k, false)
    | c :: cs =>
      if isSpacing c then some ([], k, false)
      else if quote = '\'' && c = '\'' && cs.head? = some '\'' then do
        let (after, k, broken) ← quotedRun quote fuel (k.skip 2)
        some ('\'' :: after, k, broken)
      else if c = quote then some ([], k, false)
      else if quote = '"' && c = '\\' then
        if cs.head?.any isBreak then some ([], (k.skip 1).lineBreak.2, true)
        else do
          let (d, n) ← readEscape? cs
          let (after, k, broken) ← quotedRun quote fuel (k.skip (n + 1))
          some (d :: after, k, broken)
      else do
        let (after, k, broken) ← quotedRun quote fuel (k.skip 1)
        some (c :: after, k, broken)

/-- A quoted scalar behind its opening quote. -/
def readQuoted (quote : Char) : Nat → Cursor → Option (List Char × Cursor)
  | 0, _ => none
  | fuel + 1, k =>
    if k.atDocumentMark || k.rest.isEmpty then none
    else do
      let (before, k, broken) ← quotedRun quote (k.rest.length + 1) k
      if k.sees (· = quote) then some (before, k.skip 1)
      else do
        let (g, k) ← readGap 0 (k.rest.length + 1) { Gap.none with broken := broken } k
        let (after, k) ← readQuoted quote fuel k
        some (before ++ g.text ++ after, k)

/-! ### Block text -/

/-- What happens to the line breaks at the end of block text. -/
inductive Chomping where
  | strip | clip | keep
deriving DecidableEq

/-- The chomping that a sign asks for. -/
def Chomping.ofSign? : Char → Option Chomping
  | '+' => some .keep
  | '-' => some .strip
  | _ => none

/-- A sign at a place, if there is one, and the place behind it. -/
def readSign (k : Cursor) : Option Chomping × Cursor :=
  match k.rest.head?.bind Chomping.ofSign? with
  | some chomping => (some chomping, k.skip 1)
  | none => (none, k)

/-- The digit of an indentation, if there is one, and the place behind it; zero is refused. -/
def readIndentation (k : Cursor) : Option (Nat × Cursor) :=
  match k.rest with
  | c :: _ =>
    if c = '0' then none
    else if c.isDigit then some (c.toNat - 48, k.skip 1)
    else some (0, k)
  | [] => some (0, k)

/-- The sign and the digit behind the mark of block text, in any order; no digit is zero. -/
def readHeader (k : Cursor) : Option (Chomping × Nat × Cursor) :=
  match readSign k with
  | (some chomping, k) => do
    let (n, k) ← readIndentation k
    some (chomping, n, k)
  | (none, k) => do
    let (n, k) ← readIndentation k
    if n = 0 then some (.clip, 0, k)
    else
      let (chomping, k) := readSign k
      some (chomping.getD .clip, n, k)

/-- The empty lines at a place: their breaks, the widest column that was reached, and the
place behind the indentation of the next line.  An indentation of zero is not known yet. -/
def readEmptyLines (indent : Nat) : Nat → Nat → Cursor → Option (List Char × Nat × Cursor)
  | 0, widest, k => some ([], widest, k)
  | fuel + 1, widest, k =>
    let spaces := k.rest.takeWhile (· = ' ')
    let k := k.skip (if indent = 0 then spaces.length else min spaces.length (indent - k.column))
    let widest := max widest k.column
    if (indent = 0 || k.column < indent) && k.sees (· = '\t') then none
    else if k.sees isBreak then do
      let (text, k) := k.lineBreak
      let (after, widest, k) ← readEmptyLines indent fuel widest k
      some (text ++ after, widest, k)
    else some ([], widest, k)

/-- The lines of block text: the text, the break of the last line, the breaks of the empty
lines behind it, and the place behind those.  Lines are joined as they stand if `literal`,
else a single line feed between two lines that start with no space becomes a space. -/
def readLines (literal : Bool) (indent : Nat) :
    Nat → List Char → List Char → Bool → Cursor →
      Option (List Char × List Char × List Char × Cursor)
  | 0, lead, trail, _, k => some ([], lead, trail, k)
  | fuel + 1, lead, trail, afterSpace, k =>
    if k.column ≠ indent || k.rest.isEmpty then some ([], lead, trail, k)
    else do
      let atSpace := k.sees isGap
      let folded := !literal && lead = ['\n'] && !afterSpace && !atSpace
      let joint := if folded then (if trail.isEmpty then [' '] else trail) else lead ++ trail
      let (line, k) := k.run fun _ => true
      let (lead, k) := k.lineBreak
      let (trail, _, k) ← readEmptyLines indent (k.rest.length + 1) 0 k
      let (after, lead, trail, k) ← readLines literal indent fuel lead trail atSpace k
      some (joint ++ line ++ after, lead, trail, k)

/-- Block text behind its mark, inside a block whose indentation is `outer`. -/
def readBlockText (literal : Bool) (outer : Int) (k : Cursor) : Option (List Char × Cursor) := do
  let (chomping, digit, k) ← readHeader k
  let k := k.skipGaps.skipComment
  if !k.atLineEnd then none
  else do
    let k := k.lineBreak.2
    let given := if digit = 0 then 0 else (max outer 0).toNat + digit
    let (trail, widest, k) ← readEmptyLines given (k.rest.length + 1) 0 k
    let indent := if given = 0 then max (max widest (outer + 1).toNat) 1 else given
    let (text, lead, trail, k) ← readLines literal indent (k.rest.length + 1) [] trail false k
    match chomping with
    | .strip => some (text, k)
    | .clip => some (text ++ lead, k)
    | .keep => some (text ++ lead ++ trail, k)

/-! ### Anchors, tags and directives -/

/-- The name of an anchor or an alias. -/
def readName (k : Cursor) : Option (String × Cursor) :=
  let (name, k) := k.run isNameChar
  let ends := wordEnds k.rest || k.sees fun c => "?:,]\x7d%@`".toList.contains c
  if name.isEmpty || !ends then none else some (String.ofList name, k)

/-- The octets of an escaped character: as many as the first one asks for. -/
def readOctets : Nat → List Char → Option (List Nat)
  | 0, _ => some []
  | n + 1, '%' :: a :: b :: cs => do
    let octet ← numberIn? 16 [a, b]
    let others ← readOctets n cs
    some (octet :: others)
  | _ + 1, _ => none

/-- How many octets a character has, by its first octet. -/
def octetCount? (octet : Nat) : Option Nat :=
  if octet < 0x80 then some 1
  else if 0xC0 ≤ octet && octet < 0xE0 then some 2
  else if 0xE0 ≤ octet && octet < 0xF0 then some 3
  else if 0xF0 ≤ octet && octet < 0xF8 then some 4
  else none

/-- The escaped character at the start of a text, and how long its escape is. -/
def readAddressEscape (cs : List Char) : Option (List Char × Nat) := do
  let first ← readOctets 1 cs
  let n ← octetCount? (first.headD 0)
  let octets ← readOctets n cs
  if (octets.drop 1).all fun o => 0x80 ≤ o && o < 0xC0 then
    some ((decodeLossy octets).toList, 3 * n)
  else none

/-- Whether a character may stand in the rest of a tag; `full` allows those that part flow
collections as well. -/
def isAddressChar (full : Bool) (c : Char) : Bool :=
  isNameChar c || ";/?:@&=+$.%!~*'()".toList.contains c || (full && ",[]".toList.contains c)

/-- The rest of a tag, with its escapes read. -/
def readAddress (full : Bool) : Nat → Cursor → Option (List Char × Cursor)
  | 0, k => some ([], k)
  | fuel + 1, k =>
    match k.rest with
    | [] => some ([], k)
    | c :: _ =>
      if !isAddressChar full c then some ([], k)
      else if c = '%' then do
        let (cs, n) ← readAddressEscape k.rest
        let (after, k) ← readAddress full fuel (k.skip n)
        some (cs ++ after, k)
      else do
        let (after, k) ← readAddress full fuel (k.skip 1)
        some (c :: after, k)

/-- The rest of a tag, of one character at least. -/
def readSomeAddress (full : Bool) (k : Cursor) : Option (String × Cursor) := do
  let (cs, k) ← readAddress full (k.rest.length + 1) k
  if cs.isEmpty then none else some (String.ofList cs, k)

/-- A handle behind its exclamation mark: a name, and whether a second mark closes it. -/
def readHandle (k : Cursor) : List Char × Bool × Cursor :=
  let (name, k) := k.run isNameChar
  if k.sees (· = '!') then (name, true, k.skip 1) else (name, false, k)

/-- A tag behind its exclamation mark, without regard to what follows. -/
def readTagBody (k : Cursor) : Option (Lexeme × Cursor) :=
  if k.sees (· = '<') then do
    let (address, k) ← readSomeAddress true (k.skip 1)
    if k.sees (· = '>') then some (.tag "" address, k.skip 1) else none
  else
    match readHandle k with
    | (name, true, k) => do
      let (suffix, k) ← readSomeAddress false k
      some (.tag (String.ofList ('!' :: name ++ ['!'])) suffix, k)
    | (name, false, k) => do
      let (suffix, k) ← readAddress false (k.rest.length + 1) k
      let suffix := name ++ suffix
      if suffix.isEmpty then some (.tag "" "!", k) else some (.tag "!" (String.ofList suffix), k)

/-- A tag behind its exclamation mark; a space ends it, or in a flow collection a comma. -/
def readTag (flow : Bool) (k : Cursor) : Option (Lexeme × Cursor) := do
  let (lexeme, k) ← readTagBody k
  if wordEnds k.rest || (flow && k.sees (· = ',')) then some (lexeme, k) else none

/-- A part of a version number: up to nine digits. -/
def readVersionPart (k : Cursor) : Option (Nat × Cursor) :=
  let (digits, k) := k.run Char.isDigit
  if digits.isEmpty || 9 < digits.length then none
  else some (Nat.ofDigitChars 10 digits 0, k)

/-- The version that a directive names. -/
def readVersion (k : Cursor) : Option (Lexeme × Cursor) := do
  let (major, k) ← readVersionPart k.skipGaps
  if !k.sees (· = '.') then none
  else do
    let (minor, k) ← readVersionPart (k.skip 1)
    some (.version major minor, k)

/-- The handle that a directive declares, and what it stands for. -/
def readTagHandle (k : Cursor) : Option (Lexeme × Cursor) :=
  let k := k.skipGaps
  if !k.sees (· = '!') then none
  else
    let (name, closed, k) := readHandle (k.skip 1)
    if !closed && !name.isEmpty then none
    else if !k.sees isGap then none
    else do
      let (start, k) ← readSomeAddress true k.skipGaps
      if !wordEnds k.rest then none
      else
        let handle := '!' :: name ++ (if closed then ['!'] else [])
        some (.tagHandle (String.ofList handle) start, k)

/-- A directive behind its percent sign, with its line break. -/
def readDirective (k : Cursor) : Option (Lexeme × Cursor) := do
  let (name, k) := k.run isNameChar
  if !wordEnds k.rest then none
  else do
    let (lexeme, k) ←
      if name = "YAML".toList then readVersion k
      else if name = "TAG".toList then readTagHandle k
      else none
    let k := k.skipGaps.skipComment
    if k.atLineEnd then some (lexeme, k.lineBreak.2) else none

end Lexeme

end Lookout.Yaml
