/-
The words of a script.

A line break ends a statement, except inside brackets, and the white space in front of a line
tells how deep it is nested: lexemes for deeper and shallower stand in the result.  Lines
without content count for nothing.  Tabs may not be used.  Nothing comes out of a text that
has an unknown character, an unfinished string or inconsistent indentation in it.
-/
import Lookout.Text.Digit
import Lookout.Decimal.Read

namespace Lookout.Script

/-- A word of a script. -/
inductive Lexeme where
  | newline
  | indent
  | dedent
  | identifier (name : String)
  | keyword (word : String)
  /-- A word set aside, which no script may use. -/
  | reserved
  | symbol (text : String)
  | int (n : Int)
  | float (x : Float)
  | string (s : String)
  /-- A string with expressions in it. -/
  | formatted
deriving Inhabited

namespace Lexeme

/-! ### Words and symbols -/

/-- The words of the grammar. -/
def keywords : List String :=
  ["and", "break", "continue", "def", "elif", "else", "for", "if", "in", "lambda", "load",
    "not", "or", "pass", "return"]

/-- The words set aside. -/
def reservedWords : List String :=
  ["as", "assert", "async", "await", "class", "del", "except", "finally", "from", "global",
    "import", "is", "nonlocal", "raise", "try", "while", "with", "yield"]

/-- The lexeme of a word. -/
def ofWord (word : String) : Lexeme :=
  if keywords.contains word then .keyword word
  else if reservedWords.contains word then .reserved
  else .identifier word

/-- The symbols, longer ones before their beginnings. -/
def symbols : List String :=
  ["...", "//=", "<<=", ">>=",
    "+=", "-=", "*=", "/=", "%=", "==", "!=", "<=", ">=", "**", "//", "<<", ">>", "->",
    "&=", "|=", "^=",
    ",", ";", ":", "=", "<", ">", "-", "+", "*", "%", "/", ".", "&", "|", "^", "~",
    "[", "]", "\x7b", "\x7d", "(", ")"]

/-- What is left of a text behind a given beginning. -/
def behind? : List Char → List Char → Option (List Char)
  | [], cs => some cs
  | _ :: _, [] => none
  | w :: ws, c :: cs => if w = c then behind? ws cs else none

/-- The symbol that a text begins with. -/
def symbol? (cs : List Char) : Option (String × List Char) :=
  symbols.findSome? fun s => (behind? s.toList cs).map fun rest => (s, rest)

/-! ### Numbers -/

/-- The base that a letter behind a leading zero names. -/
def baseOf? (c : Char) : Option Nat :=
  match c.toLower with
  | 'x' => some 16
  | 'o' => some 8
  | 'b' => some 2
  | _ => none

/-- An integer written in another base than ten. -/
def basedInt? : List Char → Option (Lexeme × List Char)
  | '0' :: letter :: cs => do
    let base ← baseOf? letter
    let digits := cs.takeWhile (isDigitIn base)
    if digits.isEmpty then none
    else some (.int (numberIn base digits), cs.dropWhile (isDigitIn base))
  | _ => none

/-- The exponent part that a text begins with, and the rest; empty if there is none. -/
def exponentPart (cs : List Char) : List Char × List Char :=
  match cs with
  | [] => ([], [])
  | c :: rest =>
    if c = 'e' || c = 'E' then
      let (sign, digits) := match rest with
        | '+' :: r => (['+'], r)
        | '-' :: r => (['-'], r)
        | r => ([], r)
      let run := digits.takeWhile Char.isDigit
      if run.isEmpty then ([], cs) else (c :: sign ++ run, digits.dropWhile Char.isDigit)
    else ([], cs)

/-- The point and the digits behind it that a text begins with, and the rest. -/
def fractionPart : List Char → List Char × List Char
  | '.' :: rest => ('.' :: rest.takeWhile Char.isDigit, rest.dropWhile Char.isDigit)
  | cs => ([], cs)

/-- The float of a literal. -/
def floatOf (literal : List Char) : Float :=
  (Decimal.readFloat? literal).getD 0

/-- A decimal number: a float if it has a point or an exponent, else an integer, which has
no leading zero. -/
def decimalNumber? (cs : List Char) : Option (Lexeme × List Char) :=
  let whole := cs.takeWhile Char.isDigit
  let (fraction, rest) := fractionPart (cs.dropWhile Char.isDigit)
  let (exponent, rest) := exponentPart rest
  if fraction.isEmpty && exponent.isEmpty then
    if whole.head? = some '0' && whole.length ≠ 1 then none
    else some (.int (Nat.ofDigitChars 10 whole 0), rest)
  else some (.float (floatOf (whole ++ fraction ++ exponent)), rest)

/-- The number that a text begins with. -/
def number? (cs : List Char) : Option (Lexeme × List Char) :=
  match basedInt? cs with
  | some found => some found
  | none => decimalNumber? cs

/-! ### Strings -/

/-- The longest beginning of at most `limit` digits of a base, and the rest. -/
def digitRun (base : Nat) : Nat → List Char → List Char × List Char
  | 0, cs => ([], cs)
  | _ + 1, [] => ([], [])
  | limit + 1, c :: cs =>
    if isDigitIn base c then
      let (digits, rest) := digitRun base limit cs
      (c :: digits, rest)
    else ([], c :: cs)

/-- A character by its code: between `least` and `most` digits of a base. -/
def codeEscape? (base least most : Nat) (cs : List Char) : Option (List Char × List Char) :=
  let (digits, rest) := digitRun base most cs
  let code := numberIn base digits
  if digits.length < least then none
  else if code.isValidChar then some ([Char.ofNat code], rest)
  else none

/-- What a backslash and the text behind it stand for. -/
def escape? : List Char → Option (List Char × List Char)
  | [] => none
  | c :: cs =>
    match c with
    | 'n' => some (['\n'], cs)
    | 'r' => some (['\r'], cs)
    | 't' => some (['\t'], cs)
    | 'a' => some (['\x07'], cs)
    | 'b' => some (['\x08'], cs)
    | 'f' => some (['\x0c'], cs)
    | 'v' => some (['\x0b'], cs)
    | '\n' => some ([], cs)
    | '\r' => (behind? ['\n'] cs).map fun rest => ([], rest)
    | 'x' => codeEscape? 16 2 2 cs
    | 'u' => codeEscape? 16 4 4 cs
    | 'U' => codeEscape? 16 8 8 cs
    | '"' => some (['"'], cs)
    | '\'' => some (['\''], cs)
    | '\\' => some (['\\'], cs)
    | _ =>
      if isDigitIn 8 c then codeEscape? 8 1 3 (c :: cs) else some (['\\', c], cs)

/-- What a backslash and the text behind it stand for where escapes are not read: a quote
behind a backslash does not end the string. -/
def rawEscape? : List Char → Option (List Char × List Char)
  | [] => none
  | c :: cs => some (if c = '\'' || c = '"' then [c] else ['\\', c], cs)

/-- The characters of a string up to its closing quote, which is written three times in a
string that may run over lines. -/
def stringBody? (raw triple : Bool) (quote : Char) :
    Nat → List Char → Option (List Char × List Char)
  | 0, _ => none
  | _ + 1, [] => none
  | fuel + 1, c :: cs =>
    let ending := if triple then behind? [quote, quote, quote] (c :: cs) else behind? [quote] (c :: cs)
    match ending with
    | some rest => some ([], rest)
    | none =>
      if c = '\\' then do
        let (here, rest) ← if raw then rawEscape? cs else escape? cs
        let (more, rest) ← stringBody? raw triple quote fuel rest
        some (here ++ more, rest)
      else if c = '\n' && !triple then none
      else do
        let (more, rest) ← stringBody? raw triple quote fuel cs
        some (if c = '\r' then more else c :: more, rest)

/-- A string from its opening quote on. -/
def quotedText? (raw : Bool) : List Char → Option (String × List Char)
  | [] => none
  | quote :: cs =>
    let body := match behind? [quote, quote] cs with
      | some rest => stringBody? raw true quote (rest.length + 1) rest
      | none => stringBody? raw false quote (cs.length + 1) cs
    body.map fun (text, rest) => (String.ofList text, rest)

/-- Whether a text begins with a quote. -/
def startsQuote : List Char → Bool
  | c :: _ => c = '\'' || c = '"'
  | [] => false

/-! ### Lexemes -/

/-- Whether a character may begin a word. -/
def isWordStart (c : Char) : Bool :=
  c.isAlpha || c = '_'

/-- Whether a character may stand in a word. -/
def isWordPart (c : Char) : Bool :=
  c.isAlphanum || c = '_'

/-- A word, or a string with letters in front of its quote. -/
def wordOrString? (cs : List Char) : Option (Lexeme × List Char) :=
  let word := String.ofList (cs.takeWhile isWordPart)
  let rest := cs.dropWhile isWordPart
  if startsQuote rest && word = "r" then
    (quotedText? true rest).map fun (text, rest) => (.string text, rest)
  else if startsQuote rest && (word = "f" || word = "fr") then
    (quotedText? (word = "fr") rest).map fun (_, rest) => (.formatted, rest)
  else some (ofWord word, rest)

/-- Whether a number begins here. -/
def startsNumber : List Char → Bool
  | '.' :: c :: _ => c.isDigit
  | c :: _ => c.isDigit
  | [] => false

/-- The lexeme that a text begins with, white space left aside. -/
def next? (cs : List Char) : Option (Lexeme × List Char) :=
  if startsNumber cs then number? cs
  else if startsQuote cs then
    (quotedText? false cs).map fun (text, rest) => (.string text, rest)
  else
    match cs with
    | [] => none
    | c :: _ =>
      if isWordStart c then wordOrString? cs
      else (symbol? cs).map fun (s, rest) => (.symbol s, rest)

/-! ### Lines -/

/-- How a line begins. -/
inductive LineStart where
  /-- Nothing but white space or a comment, up to the end of the line. -/
  | blank (rest : List Char)
  /-- Content behind so much white space. -/
  | content (spaces : Nat) (tabbed : Bool) (rest : List Char)

/-- How the next line that counts begins; lines with only a comment do not count. -/
def lineStart (inComment : Bool) (spaces : Nat) (tabbed : Bool) : List Char → LineStart
  | [] => .blank []
  | c :: cs =>
    if inComment then
      if c = '\n' then lineStart false 0 false cs else lineStart true spaces tabbed cs
    else if c = ' ' then lineStart false (spaces + 1) tabbed cs
    else if c = '\t' then lineStart false (spaces + 8) true cs
    else if c = '\r' then lineStart false spaces tabbed cs
    else if c = '\n' then .blank (c :: cs)
    else if c = '#' then lineStart true spaces tabbed cs
    else .content spaces tabbed (c :: cs)

/-- The levels left open at a shallower line, innermost first, and the lexemes that close the
others; the line has to fit one of the levels. -/
def closeLevels (spaces : Nat) : List Nat → Option (List Lexeme × List Nat)
  | [] => if spaces = 0 then some ([], []) else none
  | level :: levels =>
    if level = spaces then some ([], level :: levels)
    else if level < spaces then none
    else (closeLevels spaces levels).map fun (closed, left) => (.dedent :: closed, left)

/-- The lexemes that open a line, the levels open in it, and its text. -/
def openLine? (levels : List Nat) (cs : List Char) :
    Option (List Lexeme × List Nat × List Char) :=
  match lineStart false 0 false cs with
  | .blank rest => some ([], levels, rest)
  | .content spaces tabbed rest =>
    if tabbed then none
    else if levels.headD 0 < spaces then some ([.indent], spaces :: levels, rest)
    else (closeLevels spaces levels).map fun (closed, left) => (closed, left, rest)

/-- How brackets nest behind a lexeme. -/
def nesting (depth : Nat) : Lexeme → Nat
  | .symbol s =>
    if s = "(" || s = "[" || s = "\x7b" then depth + 1
    else if s = ")" || s = "]" || s = "\x7d" then depth - 1
    else depth
  | _ => depth

/-- All lexemes of a text from the middle of a line on.  Each step takes a character. -/
def scan? : Nat → List Nat → Nat → List Char → Option (List Lexeme)
  | 0, _, _, _ => none
  | _ + 1, levels, _, [] => some (.newline :: List.replicate levels.length .dedent)
  | fuel + 1, levels, depth, c :: cs =>
    if c = ' ' then scan? fuel levels depth cs
    else if c = '#' then scan? fuel levels depth (cs.dropWhile fun d => d ≠ '\n' && d ≠ '\r')
    else if c = '\\' then
      match cs with
      | '\n' :: rest => scan? fuel levels depth rest
      | '\r' :: '\n' :: rest => scan? fuel levels depth rest
      | _ => none
    else
      let broken := if c = '\n' then some cs else behind? ['\r', '\n'] (c :: cs)
      match broken with
      | some rest =>
        if depth = 0 then do
          let (opened, levels, rest) ← openLine? levels rest
          let more ← scan? fuel levels 0 rest
          some (.newline :: opened ++ more)
        else scan? fuel levels depth rest
      | none => do
        let (lexeme, rest) ← next? (c :: cs)
        let more ← scan? fuel levels (nesting depth lexeme) rest
        some (lexeme :: more)

/-- The lexemes of a script. -/
def ofText? (source : String) : Option (List Lexeme) := do
  let cs := source.toList
  let (opened, levels, rest) ← openLine? [] cs
  let more ← scan? (cs.length + 1) levels 0 rest
  some (opened ++ more)

end Lexeme

end Lookout.Script
