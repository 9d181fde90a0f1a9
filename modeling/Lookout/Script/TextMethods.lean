/-
The methods of text.

Positions count characters.  Where a text is searched for an empty part, it is found before
every character and at the end.
-/
import Lookout.Script.Arguments
import Lookout.Script.Format
import Lookout.Text.Casing
import Lookout.Text.Blank

namespace Lookout.Script

/-! ### Searching and splitting -/

/-- The places where a part occurs without overlap, read from the front; `skip` characters
belong to the occurrence before. -/
def placesFrom (part : List Char) (skip i : Nat) : List Char → List Nat
  | [] => if part.isEmpty && skip = 0 then [i] else []
  | c :: cs =>
    if skip ≠ 0 then placesFrom part (skip - 1) (i + 1) cs
    else if part.isPrefixOf (c :: cs) then i :: placesFrom part (part.length - 1) (i + 1) cs
    else placesFrom part 0 (i + 1) cs

/-- The places where a part occurs, read from the front. -/
def places (part text : List Char) : List Nat :=
  placesFrom part 0 0 text

/-- The places where a part occurs, read from the back. -/
def placesBackwards (part text : List Char) : List Nat :=
  (places part.reverse text.reverse).map fun i => text.length - i - part.length

/-- The pieces between cuts of one width, given in order; `start` is where the text starts. -/
def piecesBetween (width : Nat) (start : Nat) (text : List Char) : List Nat → List (List Char)
  | [] => [text]
  | cut :: cuts =>
    text.take (cut - start)
      :: piecesBetween width (cut + width) (text.drop (cut - start + width)) cuts

/-- The pieces of a text between the occurrences of a part, of which at most `limit` count,
from the front. -/
def splitAt (part text : List Char) (limit : Option Nat) : List (List Char) :=
  let cuts := places part text
  piecesBetween part.length 0 text (match limit with
    | some n => cuts.take n
    | none => cuts)

/-- The pieces of a text between the occurrences of a part, of which at most `limit` count,
from the back. -/
def splitAtBackwards (part text : List Char) (limit : Option Nat) : List (List Char) :=
  let cuts := placesBackwards part text
  piecesBetween part.length 0 text (match limit with
    | some n => (cuts.take n).reverse
    | none => cuts.reverse)

/-- The words of a text; once there are `limit` of them the last one reaches to the end.
`seeking` is whether no character of the present word was seen yet. -/
def wordsUpTo (limit : Option Nat) (count : Nat) (seeking : Bool) (word : List Char) :
    List Char → List (List Char)
  | [] => if word.isEmpty then [] else [word.reverse]
  | c :: cs =>
    let full := match limit with
      | some n => n ≤ count
      | none => false
    if full && !seeking then wordsUpTo limit count seeking (c :: word) cs
    else if isBlank c then
      if word.isEmpty then wordsUpTo limit count seeking word cs
      else word.reverse :: wordsUpTo limit (count + 1) true [] cs
    else wordsUpTo limit count false (c :: word) cs

/-- The words of a text from the front. -/
def words (limit : Option Nat) (text : List Char) : List (List Char) :=
  wordsUpTo limit 1 true [] text

/-- The words of a text, counted from the back. -/
def wordsBackwards (limit : Option Nat) (text : List Char) : List (List Char) :=
  ((words limit text.reverse).map List.reverse).reverse

/-- The lines of a text, with their ends if `keep` is set; an end that closes the text opens
no further line. -/
def linesOf (keep : Bool) : Nat → List Char → List (List Char)
  | 0, _ => []
  | fuel + 1, text =>
    let line := text.takeWhile fun c => c != '\n' && c != '\r'
    let rest := text.dropWhile fun c => c != '\n' && c != '\r'
    let finish (ending rest : List Char) : List (List Char) :=
      (if keep then line ++ ending else line)
        :: (if rest.isEmpty then [] else linesOf keep fuel rest)
    match rest with
    | [] => [line]
    | '\r' :: '\n' :: rest => finish ['\r', '\n'] rest
    | c :: rest => finish [c] rest

/-- The part of a text that a search goes through: where it starts and where it ends.  There
is none if the start is behind the end of the text or of the part. -/
def searchWindow (length : Nat) (start stop : Option Int) : Option (Nat × Nat) :=
  let first := start.getD 0
  let last := stop.getD length
  let low := clamp 0 length (fromFront length first)
  let high := clamp 0 length (fromFront length last)
  if (0 ≤ last && (length : Int) < first) || high < low then none
  else some (low.toNat, high.toNat)

/-- The characters of a text in a window. -/
def windowOf (text : List Char) (window : Nat × Nat) : List Char :=
  (text.take window.2).drop window.1

/-! ### Case -/

/-- A text with the first character in upper case and the others in lower case. -/
def capitalized : List Char → List Char
  | [] => []
  | c :: cs => upperImage c ++ cs.flatMap lowerImage

/-- A text with the first letter of each word in upper case and the others in lower case. -/
def titled (inWord : Bool) : List Char → List Char
  | [] => []
  | c :: cs =>
    if !isLetter c then c :: titled false cs
    else (if inWord then lowerImage c else upperImage c) ++ titled true cs

/-- Whether the first letter of each word is in upper case and the others are not, and there
is one; `seen` is whether there was one already. -/
def isTitled (inWord seen : Bool) : List Char → Bool
  | [] => seen
  | c :: cs =>
    if !isLetter c then isTitled false seen cs
    else if inWord then !uppercase.contains c && isTitled true true cs
    else !lowercase.contains c && isTitled true true cs

/-- Whether a text is not empty and a check holds for all its characters. -/
def allAndSome (check : Char → Bool) (text : List Char) : Bool :=
  !text.isEmpty && text.all check

/-! ### The methods -/

/-- A text as a datum. -/
def textDatum (cs : List Char) : Datum :=
  .string (String.ofList cs)

namespace Eval

/-- The part that a search is for and the window it goes through. -/
def searchParams (text : List Char) (args : Arguments) :
    Eval (List Char × Option (Nat × Nat)) := do
  let given ← positionalOnly args 1 3
  let part ← textParam "needle" (given.headD .none)
  let start ← maybeInt "start" given[1]?
  let stop ← maybeInt "end" given[2]?
  pure (part.toList, searchWindow text.length start stop)

/-- Where a search finds its part first, in the order that `search` gives. -/
def foundAt (search : List Char → List Char → List Nat) (text : List Char) (args : Arguments) :
    Eval (List Char × Option Nat) := do
  let (part, window) ← searchParams text args
  let found := window.bind fun w => ((search part (windowOf text w)).head?).map (w.1 + ·)
  pure (part, found)

/-- The place that a search finds, or `-1`. -/
def findMethod (search : List Char → List Char → List Nat) (text : List Char)
    (args : Arguments) : Eval Datum := do
  let (_, found) ← foundAt search text args
  pure (.int ((found.map fun (i : Nat) => (i : Int)).getD (-1)))

/-- The place that a search finds. -/
def indexMethod (search : List Char → List Char → List Nat) (text : List Char)
    (args : Arguments) : Eval Datum := do
  let (part, found) ← foundAt search text args
  match found with
  | some i => pure (.int i)
  | none => fail (.noSubstring (String.ofList part) (String.ofList text))

/-- The texts that the start or end of a text is compared with. -/
def affixes (param : String) (d : Datum) : Eval (List String) :=
  let expected := "str | tuple[str, ...]"
  match d with
  | .string s => pure [s]
  | .tuple items =>
    items.mapM fun item =>
      match item with
      | .string s => pure s
      | _ => wrongParam param expected d
  | d => wrongParam param expected d

/-- Whether a text starts or ends with one of those given. -/
def affixMethod (param : String) (check : List Char → Bool) (args : Arguments) : Eval Datum := do
  let given ← positionalOnly args 1 1
  let texts ← affixes param (given.headD .none)
  pure (.bool (texts.any fun t => check t.toList))

/-- A check of a text without arguments. -/
def checkMethod (answer : Bool) (args : Arguments) : Eval Datum := do
  let _ ← positionalOnly args 0 0
  pure (.bool answer)

/-- A new text made without arguments. -/
def textMethod (answer : List Char) (args : Arguments) : Eval Datum := do
  let _ ← positionalOnly args 0 0
  pure (textDatum answer)

/-- Characters removed: those given, or white space. -/
def stripMethod (strip : (Char → Bool) → List Char) (args : Arguments) : Eval Datum := do
  let given ← positionalOnly args 0 1
  let chars ← optionalParam (textParam "chars") given[0]?
  match chars with
  | some s => pure (textDatum (strip s.toList.contains))
  | none => pure (textDatum (strip isBlank))

/-- The parts before, at and behind a place. -/
def partitionMethod (search : List Char → List Char → List Nat) (missing : Datum)
    (text : List Char) (args : Arguments) : Eval Datum := do
  let given ← positionalOnly args 1 1
  let part ← textParam "needle" (given.headD .none)
  if part.isEmpty then fail .emptySeparator
  else
    match (search part.toList text).head? with
    | none => pure missing
    | some i =>
      pure (.tuple [textDatum (text.take i), .string part,
        textDatum (text.drop (i + part.length))])

/-- The pieces of a text: at a separator, or its words. -/
def splitMethod (atSeparator : List Char → Option Nat → List (List Char))
    (byBlanks : Option Nat → List (List Char)) (args : Arguments) : Eval Datum := do
  let given ← positionalOnly args 0 2
  let separator ← maybeText "sep" given[0]?
  let most ← maybeInt "maxsplit" given[1]?
  let limit : Option Nat := most.bind fun (n : Int) => if n < 0 then none else some n.toNat
  let pieces := match separator with
    | some s => atSeparator s.toList limit
    | none => byBlanks (limit.map (· + 1))
  newList (pieces.map textDatum)

/-- Texts put together with a text between them. -/
def joinMethod (text : String) (args : Arguments) : Eval Datum := do
  let given ← positionalOnly args 1 1
  let items ← itemsOf (given.headD .none)
  let texts ← items.mapM (textParam "to_join")
  pure (.string (text.intercalate texts))

/-- A text with occurrences replaced. -/
def replaceMethod (text : List Char) (args : Arguments) : Eval Datum := do
  let given ← positionalOnly args 2 3
  let old ← textParam "old" (given.headD .none)
  let new ← textParam "new" (given.getD 1 .none)
  let count ← optionalParam (intParam "count" "int") given[2]?
  match count with
  | none => pure (textDatum (new.toList.intercalate (splitAt old.toList text none)))
  | some n =>
    if n < 0 then fail (.negativeCount n)
    else pure (textDatum (new.toList.intercalate (splitAt old.toList text (some n.toNat))))

/-- A method of a text called. -/
def callTextMethod (owner : String) (m : TextMethod) (args : Arguments) : Eval Datum := do
  let text := owner.toList
  match m with
  | .capitalize => textMethod (capitalized text) args
  | .codepoints =>
    let _ ← positionalOnly args 0 0
    pure (.iterator (text.map fun c => .int c.toNat))
  | .count =>
    let (part, window) ← searchParams text args
    let found := (window.map fun w => (places part (windowOf text w)).length).getD 0
    pure (.int found)
  | .elems =>
    let _ ← positionalOnly args 0 0
    pure (.iterator (text.map fun c => textDatum [c]))
  | .endswith => affixMethod "suffix" (fun part => part.isSuffixOf text) args
  | .find => findMethod places text args
  | .format => formatBraces owner args.positional args.named
  | .index => indexMethod places text args
  | .isalnum => checkMethod (allAndSome isLetterOrNumeral text) args
  | .isalpha => checkMethod (allAndSome isLetter text) args
  | .isdigit => checkMethod (allAndSome isNumeral text) args
  | .islower =>
    checkMethod (!text.any uppercase.contains && text.any lowercase.contains) args
  | .isspace => checkMethod (allAndSome isBlank text) args
  | .istitle => checkMethod (isTitled false false text) args
  | .isupper =>
    checkMethod (!text.any lowercase.contains && text.any uppercase.contains) args
  | .join => joinMethod owner args
  | .lower => textMethod (Text.lowerFrom [] text) args
  | .lstrip => stripMethod (fun p => Text.trimStart p text) args
  | .partition =>
    partitionMethod places (.tuple [.string owner, .string "", .string ""]) text args
  | .withoutStart =>
    let given ← positionalOnly args 1 1
    let part ← textParam "prefix" (given.headD .none)
    pure (textDatum (if part.toList.isPrefixOf text then text.drop part.length else text))
  | .withoutEnd =>
    let given ← positionalOnly args 1 1
    let part ← textParam "suffix" (given.headD .none)
    pure (textDatum
      (if part.toList.isSuffixOf text then text.take (text.length - part.length) else text))
  | .replace => replaceMethod text args
  | .rfind => findMethod placesBackwards text args
  | .rindex => indexMethod placesBackwards text args
  | .rpartition =>
    partitionMethod placesBackwards (.tuple [.string "", .string "", .string owner]) text args
  | .rsplit =>
    splitMethod (fun part => splitAtBackwards part text) (fun n => wordsBackwards n text) args
  | .rstrip => stripMethod (fun p => Text.trimEnd p text) args
  | .split => splitMethod (fun part => splitAt part text) (fun n => words n text) args
  | .splitlines =>
    let given ← positionalOnly args 0 1
    let keep ← optionalParam (boolParam "keepends") given[0]?
    newList ((linesOf (keep.getD false) (text.length + 1) text).map textDatum)
  | .startswith => affixMethod "prefix" (fun part => part.isPrefixOf text) args
  | .strip => stripMethod (fun p => Text.trim p text) args
  | .title => textMethod (titled false text) args
  | .upper => textMethod (text.flatMap upperImage) args

end Eval

end Lookout.Script
