/-
Reading settings documents.

A document is a sequence of lines, each with a key and its value or with a header.  Reading
stops at the first fault; nothing is told about it but that the text is malformed.
-/
import Lookout.Decimal.Read
import Lookout.Text.Digit
import Lookout.Toml.Table

namespace Lookout.Toml

/-! ### Characters -/

/-- Whether a character is a space or a tab. -/
def isGap (c : Char) : Bool :=
  c = ' ' || c = '\t'

/-- Whether a character may stand in a comment or, apart from the marks of the string itself,
in a string of one line. -/
def isText (c : Char) : Bool :=
  c = '\t' || (0x20 ≤ c.toNat && c.toNat ≠ 0x7F)

/-- Whether a character may stand in a key without quotes. -/
def isBare (c : Char) : Bool :=
  c.isAlphanum || c = '_' || c = '-'

/-- The text behind spaces and tabs. -/
def skipGaps (cs : List Char) : List Char :=
  cs.dropWhile isGap

/-- The text behind a line break, if one is next. -/
def behindBreak? : List Char → Option (List Char)
  | '\n' :: cs => some cs
  | '\r' :: '\n' :: cs => some cs
  | _ => none

/-- The text behind a comment, if one is next. -/
def skipComment (cs : List Char) : List Char :=
  match cs with
  | '#' :: rest => rest.dropWhile isText
  | _ => cs

/-- The text behind the end of a line: spaces, a comment, and a break or the end. -/
def endLine? (cs : List Char) : Option (List Char) :=
  match skipComment (skipGaps cs) with
  | [] => some []
  | rest => behindBreak? rest

/-- The text behind spaces, line breaks and comments. -/
def skipLines : Nat → List Char → List Char
  | 0, cs => cs
  | fuel + 1, cs =>
    let cs := skipGaps cs
    match cs with
    | '#' :: _ => skipLines fuel (skipComment cs)
    | _ =>
      match behindBreak? cs with
      | some rest => skipLines fuel rest
      | none => cs

/-! ### Strings -/

/-- The character that a one letter escape stands for. -/
def escaped? : Char → Option Char
  | 'b' => some '\x08'
  | 't' => some '\t'
  | 'n' => some '\n'
  | 'f' => some '\x0c'
  | 'r' => some '\r'
  | '"' => some '"'
  | '\\' => some '\\'
  | _ => none

/-- The character whose number is written in so many hexadecimal digits, and the text behind
them. -/
def readCode? (digits : Nat) (cs : List Char) : Option (Char × List Char) := do
  let code := cs.take digits
  if code.length < digits then none
  else do
    let n ← numberIn? 16 code
    if n.isValidChar then some (Char.ofNat n, cs.drop digits) else none

/-- The escape behind a backslash, and the text behind it. -/
def readEscape? : List Char → Option (Char × List Char)
  | 'u' :: cs => readCode? 4 cs
  | 'U' :: cs => readCode? 8 cs
  | c :: cs => (escaped? c).map (·, cs)
  | [] => none

/-- A string with escapes behind its quote. -/
def readBasic : Nat → List Char → Option (List Char × List Char)
  | 0, _ => none
  | fuel + 1, cs =>
    match cs with
    | '"' :: rest => some ([], rest)
    | '\\' :: rest => do
      let (c, rest) ← readEscape? rest
      let (after, rest) ← readBasic fuel rest
      some (c :: after, rest)
    | c :: rest =>
      if isText c then do
        let (after, rest) ← readBasic fuel rest
        some (c :: after, rest)
      else none
    | [] => none

/-- A string without escapes behind its quote. -/
def readLiteral (cs : List Char) : Option (List Char × List Char) :=
  let text := cs.takeWhile fun c => isText c && c ≠ '\''
  match cs.drop text.length with
  | '\'' :: rest => some (text, rest)
  | _ => none

/-- The text without the break that comes first in a string of several lines. -/
def skipFirstBreak (cs : List Char) : List Char :=
  (behindBreak? cs).getD cs

/-- The quotes at the start of a text: five of them at most. -/
def quotesAhead (quote : Char) (cs : List Char) : Nat :=
  ((cs.take 5).takeWhile (· = quote)).length

/-- The text behind a backslash at the end of a line: behind all spaces and breaks. -/
def behindJoin? (cs : List Char) : Option (List Char) :=
  (behindBreak? (skipGaps cs)).map fun rest => skipSpacing rest.length rest
where
  skipSpacing : Nat → List Char → List Char
    | 0, cs => cs
    | fuel + 1, cs =>
      match behindBreak? (skipGaps cs) with
      | some rest => skipSpacing fuel rest
      | none => skipGaps cs

/-- A string of several lines behind its three quotes, with escapes if `escapes`.  Up to two
quotes in front of the last three belong to it. -/
def readLong (quote : Char) (escapes : Bool) : Nat → List Char → Option (List Char × List Char)
  | 0, _ => none
  | fuel + 1, cs =>
    let n := quotesAhead quote cs
    if 3 ≤ n then some (List.replicate (n - 3) quote, cs.drop n)
    else match cs with
      | [] => none
      | c :: rest =>
        if c = '\\' && escapes then
          match behindJoin? rest with
          | some rest => readLong quote escapes fuel rest
          | none => do
            let (d, rest) ← readEscape? rest
            let (after, rest) ← readLong quote escapes fuel rest
            some (d :: after, rest)
        else match behindBreak? cs with
          | some rest => do
            let (after, rest) ← readLong quote escapes fuel rest
            some ('\n' :: after, rest)
          | none =>
            if isText c then do
              let (after, rest) ← readLong quote escapes fuel rest
              some (c :: after, rest)
            else none

/-- A string of any kind, if one is next. -/
def readString? (cs : List Char) : Option (String × List Char) :=
  let read : Option (List Char × List Char) :=
    match cs with
    | '"' :: '"' :: '"' :: rest => readLong '"' true (rest.length + 1) (skipFirstBreak rest)
    | '\'' :: '\'' :: '\'' :: rest => readLong '\'' false (rest.length + 1) (skipFirstBreak rest)
    | '"' :: rest => readBasic (rest.length + 1) rest
    | '\'' :: rest => readLiteral rest
    | _ => none
  read.map fun (text, rest) => (String.ofList text, rest)

/-! ### Keys -/

/-- A key without dots, and the text behind it. -/
def readSimpleKey? (cs : List Char) : Option (String × List Char) :=
  let read : Option (List Char × List Char) :=
    match cs with
    | '"' :: rest => readBasic (rest.length + 1) rest
    | '\'' :: rest => readLiteral rest
    | _ =>
      let key := cs.takeWhile isBare
      if key.isEmpty then none else some (key, cs.drop key.length)
  read.map fun (text, rest) => (String.ofList text, rest)

/-- How many parts a dotted key may have, and how deep values may nest. -/
def depthBound : Nat := 79

/-- A key with its dots: its parts, and the text behind it and behind spaces. -/
def readKey : Nat → List Char → Option (List String × List Char)
  | 0, _ => none
  | fuel + 1, cs => do
    let (part, cs) ← readSimpleKey? (skipGaps cs)
    match skipGaps cs with
    | '.' :: rest => do
      let (parts, rest) ← readKey fuel rest
      some (part :: parts, rest)
    | rest => some ([part], rest)

/-- A key's way to its table, and its last part. -/
def splitKey (parts : List String) : List String × String :=
  (parts.dropLast, parts.getLastD "")

/-! ### Numbers and dates -/

/-- Digits of a base with single low lines between them, without those, and the text behind
them. -/
def readDigits? (base : Nat) (cs : List Char) : Option (List Char × List Char) :=
  let run := cs.takeWhile fun c => isDigitIn base c || c = '_'
  let groups := run.splitOn '_'
  if groups.any (·.isEmpty) then none else some (groups.flatten, cs.drop run.length)

/-- Whether an integer fits 64 bits. -/
def fits (n : Int) : Bool :=
  -0x8000000000000000 ≤ n && n < 0x8000000000000000

/-- A sign and the text behind it. -/
def readSign (cs : List Char) : Bool × List Char :=
  match cs with
  | '-' :: rest => (true, rest)
  | '+' :: rest => (false, rest)
  | _ => (false, cs)

/-- An integer with a prefix for its base, if one is next. -/
def readBased? (cs : List Char) : Option (Item × List Char) := do
  let (base, digits) ← match cs with
    | '0' :: 'x' :: rest => some (16, rest)
    | '0' :: 'o' :: rest => some (8, rest)
    | '0' :: 'b' :: rest => some (2, rest)
    | _ => none
  let (run, rest) ← readDigits? base digits
  let n : Int := numberIn base run
  if fits n then some (.integer n, rest) else none

/-- The exponent of a float, if one is next, without low lines, and the text behind it. -/
def readExponent? (cs : List Char) : Option (List Char × List Char) :=
  match cs with
  | c :: rest =>
    if c = 'e' || c = 'E' then do
      let (negative, rest) := readSign rest
      let (digits, rest) ← readDigits? 10 rest
      some ('e' :: (if negative then '-' :: digits else digits), rest)
    else some ([], cs)
  | [] => some ([], [])

/-- The fraction of a float, if one is next, without low lines, and the text behind it. -/
def readFraction? (cs : List Char) : Option (List Char × List Char) :=
  match cs with
  | '.' :: rest => (readDigits? 10 rest).map fun (digits, rest) => ('.' :: digits, rest)
  | _ => some ([], cs)

/-- A number in base ten: an integer, or a float if it has a fraction or an exponent. -/
def readDecimal? (cs : List Char) : Option (Item × List Char) := do
  let (negative, rest) := readSign cs
  let (whole, rest) ← readDigits? 10 rest
  if 1 < whole.length && whole.head? = some '0' then none
  else do
    let (fraction, rest) ← readFraction? rest
    let (exponent, rest) ← readExponent? rest
    if fraction.isEmpty && exponent.isEmpty then
      let n : Int := numberIn 10 whole
      let n := if negative then -n else n
      if fits n then some (.integer n, rest) else none
    else do
      let sign := if negative then ['-'] else []
      let x ← Decimal.readFloat? (sign ++ whole ++ fraction ++ exponent)
      if x.isInf && !negative then none else some (.float x, rest)

/-- A float written as a word, if one is next. -/
def readWordFloat? (cs : List Char) : Option (Item × List Char) :=
  let (negative, rest) := readSign cs
  let signed (x : Float) : Item := .float (if negative then -x else x)
  match rest with
  | 'i' :: 'n' :: 'f' :: rest => some (signed (1 / 0), rest)
  | 'n' :: 'a' :: 'n' :: rest => some (signed (0 / 0), rest)
  | _ => none

/-- The number of so many digits, in a range, and the text behind it. -/
def readField? (digits low high : Nat) (cs : List Char) : Option (Nat × List Char) := do
  let field := cs.take digits
  if field.length < digits then none
  else do
    let n ← numberIn? 10 field
    if low ≤ n && n ≤ high then some (n, cs.drop digits) else none

/-- The text behind a given character. -/
def behind? (c : Char) : List Char → Option (List Char)
  | d :: cs => if d = c then some cs else none
  | [] => none

/-- The days of a month. -/
def daysIn (year month : Nat) : Nat :=
  if month = 2 then
    if year % 4 = 0 && (year % 100 ≠ 0 || year % 400 = 0) then 29 else 28
  else if month = 4 || month = 6 || month = 9 || month = 11 then 30
  else 31

/-- The text behind a date. -/
def behindDate? (cs : List Char) : Option (List Char) := do
  let (year, cs) ← readField? 4 0 9999 cs
  let (month, cs) ← readField? 2 1 12 (← behind? '-' cs)
  let (_, cs) ← readField? 2 1 (daysIn year month) (← behind? '-' cs)
  some cs

/-- The text behind a time of day. -/
def behindTime? (cs : List Char) : Option (List Char) := do
  let (_, cs) ← readField? 2 0 23 cs
  let (_, cs) ← readField? 2 0 59 (← behind? ':' cs)
  let (_, cs) ← readField? 2 0 60 (← behind? ':' cs)
  match cs with
  | '.' :: rest =>
    let digits := rest.takeWhile Char.isDigit
    if digits.isEmpty then none else some (rest.drop digits.length)
  | _ => some cs

/-- The text behind an offset from universal time, if one is next. -/
def behindOffset? (cs : List Char) : Option (List Char) :=
  match cs with
  | 'Z' :: rest | 'z' :: rest => some rest
  | '+' :: rest | '-' :: rest => do
    let (_, rest) ← readField? 2 0 23 rest
    let (_, rest) ← readField? 2 0 59 (← behind? ':' rest)
    some rest
  | _ => some cs

/-- A date, a time or both, if they are next. -/
def readDate? (cs : List Char) : Option (Item × List Char) :=
  match behindDate? cs with
  | none => (behindTime? cs).map (.date, ·)
  | some rest =>
    match rest with
    | c :: time =>
      if c = 'T' || c = 't' || (c = ' ' && time.head?.any Char.isDigit) then do
        let rest ← behindTime? time
        let rest ← behindOffset? rest
        some (.date, rest)
      else some (.date, rest)
    | [] => some (.date, [])

/-! ### Values -/

/-- A value that is no string, array or table. -/
def readPlain? (cs : List Char) : Option (Item × List Char) :=
  match cs with
  | 't' :: 'r' :: 'u' :: 'e' :: rest => some (.bool true, rest)
  | 'f' :: 'a' :: 'l' :: 's' :: 'e' :: rest => some (.bool false, rest)
  | _ =>
    match readDate? cs with
    | some found => some found
    | none =>
      match readWordFloat? cs with
      | some found => some found
      | none =>
        match readBased? cs with
        | some found => some found
        | none => readDecimal? cs

mutual

/-- A value; `depth` is how deep it may still nest. -/
def readValue : Nat → Nat → List Char → Option (Item × List Char)
  | 0, _, _ => none
  | fuel + 1, depth, cs =>
    match cs with
    | '[' :: rest =>
      if depth = 0 then none
      else do
        let (items, rest) ← readItems fuel (depth - 1) rest
        some (.array items, rest)
    | '{' :: rest =>
      if depth = 0 then none
      else
        match skipGaps rest with
        | '}' :: rest => some (.table .inline [], rest)
        | rest => do
          let (entries, rest) ← readEntries fuel (depth - 1) [] rest
          some (.table .inline entries, rest)
    | c :: _ =>
      if c = '"' || c = '\'' then (readString? cs).map fun (s, rest) => (.string s, rest)
      else readPlain? cs
    | [] => none

/-- The values of an array up to its closing bracket. -/
def readItems : Nat → Nat → List Char → Option (List Item × List Char)
  | 0, _, _ => none
  | fuel + 1, depth, cs =>
    match skipLines (cs.length + 1) cs with
    | ']' :: rest => some ([], rest)
    | cs => do
      let (item, cs) ← readValue fuel depth cs
      match skipLines (cs.length + 1) cs with
      | ']' :: rest => some ([item], rest)
      | ',' :: rest => do
        let (items, rest) ← readItems fuel depth rest
        some (item :: items, rest)
      | _ => none

/-- The entries of a table in one piece up to its closing brace, behind some others. -/
def readEntries : Nat → Nat → Entries → List Char → Option (Entries × List Char)
  | 0, _, _, _ => none
  | fuel + 1, depth, entries, cs => do
    let (parts, cs) ← readKey depthBound cs
    let cs ← behind? '=' cs
    let (item, cs) ← readValue fuel depth (skipGaps cs)
    let (path, key) := splitKey parts
    let entries ← entries.set? path key item .inline
    match skipGaps cs with
    | '}' :: rest => some (entries, rest)
    | ',' :: rest => readEntries fuel depth entries rest
    | _ => none

end

/-! ### Lines -/

/-- A document that is being filled: its entries, and the header of the table that its lines
go into. -/
structure Filling where
  entries : Entries
  header : List String

namespace Filling

/-- A header in brackets, and the text behind its line. -/
def readHeader? (cs : List Char) : Option (List String × Bool × List Char) :=
  match cs with
  | '[' :: rest => do
    let (parts, rest) ← readKey depthBound rest
    let rest ← behind? ']' rest
    let rest ← behind? ']' rest
    some (parts, true, ← endLine? rest)
  | _ => do
    let (parts, rest) ← readKey depthBound cs
    let rest ← behind? ']' rest
    some (parts, false, ← endLine? rest)

/-- The filling turned to the table of a header. -/
def turn? (parts : List String) (row : Bool) (f : Filling) : Option Filling := do
  let (path, key) := splitKey parts
  let opened (_ : Origin) (es : Entries) : Option Entries :=
    if row then es.openRow? key else es.openTable? key
  let entries ← f.entries.alter false opened path .header
  some ⟨entries, parts⟩

/-- The filling with one more key in the table of its header. -/
def set? (parts : List String) (item : Item) (f : Filling) : Option Filling := do
  let (path, key) := splitKey parts
  let entries ← f.entries.alter false (fun origin es => es.set? path key item origin) f.header
    .header
  some { f with entries := entries }

/-- The filling with the lines of a text. -/
def readLines : Nat → Filling → List Char → Option Filling
  | 0, _, _ => none
  | fuel + 1, f, cs =>
    match skipLines (cs.length + 1) cs with
    | [] => some f
    | '[' :: rest => do
      let (parts, row, rest) ← readHeader? rest
      let f ← f.turn? parts row
      readLines fuel f rest
    | cs => do
      let (parts, rest) ← readKey depthBound cs
      let rest ← behind? '=' rest
      let (item, rest) ← readValue (rest.length + 1) depthBound (skipGaps rest)
      let rest ← endLine? rest
      let f ← f.set? parts item
      readLines fuel f rest

end Filling

/-- The entries of a document, or nothing if it is malformed.  A byte order mark at its start
does not count. -/
def parse? (text : String) : Option Entries :=
  let cs := match text.toList with
    | '\ufeff' :: cs => cs
    | cs => cs
  (Filling.readLines (cs.length + 1) ⟨[], []⟩ cs).map (·.entries)

end Lookout.Toml
