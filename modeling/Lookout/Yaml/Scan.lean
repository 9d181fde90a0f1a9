/-
The words of a document in order, with its structure spelled out.

Indentation becomes words of its own: a block opens when a line reaches further right and
closes when one falls back.  Whether a word starts a key is known only when its colon comes,
so the place where a key may have started is kept, one for each flow collection that is
open; a key has to end on its line, within 1024 characters.
-/
import Lookout.Yaml.Lexeme

namespace Lookout.Yaml

/-- A place where a key may have started. -/
structure KeyPlace where
  /-- Whether nothing but a key may start there: at the indentation of a block. -/
  required : Bool
  /-- How many words came before it. -/
  place : Nat
  index : Nat
  line : Nat
  column : Nat

/-- A text that is read up to some place. -/
structure Scan where
  cursor : Cursor
  /-- The indentation of the innermost block; below zero outside of any. -/
  indent : Int
  /-- The indentations of the blocks around it. -/
  outerIndents : List Int
  /-- Where a key may have started in the innermost flow collection, or in the block. -/
  key : Option KeyPlace
  /-- The same for what is around each open flow collection. -/
  outerKeys : List (Option KeyPlace)
  /-- Whether a key may start here. -/
  keyAllowed : Bool
  lexemes : Array Lexeme

namespace Scan

/-- The start of a text. -/
def ofText (cs : List Char) : Scan :=
  ⟨.ofText cs, -1, [], none, [], true, #[]⟩

/-- Whether a flow collection is open. -/
def inFlow (s : Scan) : Bool :=
  !s.outerKeys.isEmpty

/-- The scan with one more word. -/
def push (lexeme : Lexeme) (s : Scan) : Scan :=
  { s with lexemes := s.lexemes.push lexeme }

/-- The scan with one more word, which ends at a cursor. -/
def pushAt (lexeme : Lexeme) (k : Cursor) (s : Scan) : Scan :=
  { s with cursor := k, lexemes := s.lexemes.push lexeme }

/-! ### Keys -/

/-- The scan with the place of a key forgotten; a required key must not be missing. -/
def dropKey (s : Scan) : Option Scan :=
  if s.key.any (·.required) then none else some { s with key := none }

/-- The scan with this place as the start of a key, where one may start. -/
def saveKey (s : Scan) : Option Scan :=
  if !s.keyAllowed then some s
  else do
    let s ← s.dropKey
    let k := s.cursor
    let required := !s.inFlow && s.indent = k.column
    some { s with key := some ⟨required, s.lexemes.size, k.index, k.line, k.column⟩ }

/-- Whether a key that started at a place can still end here. -/
def isFresh (s : Scan) (p : KeyPlace) : Bool :=
  p.line = s.cursor.line && s.cursor.index ≤ p.index + 1024

/-- A place that is kept if a key from there can still end here; a required key must. -/
def refresh (s : Scan) : Option KeyPlace → Option (Option KeyPlace)
  | none => some none
  | some p => if s.isFresh p then some (some p) else if p.required then none else some none

/-- The scan without the places from which no key can end any more. -/
def dropStaleKeys (s : Scan) : Option Scan := do
  let key ← s.refresh s.key
  let outerKeys ← s.outerKeys.mapM s.refresh
  some { s with key := key, outerKeys := outerKeys }

/-! ### Blocks -/

/-- The scan with a block open at a column, if the column is further right; the word that
opens it stands at a place among the words. -/
def openBlock (column place : Nat) (lexeme : Lexeme) (s : Scan) : Scan :=
  if s.inFlow || (column : Int) ≤ s.indent then s
  else
    { s with
      indent := column
      outerIndents := s.indent :: s.outerIndents
      lexemes := s.lexemes.insertIdxIfInBounds place lexeme }

/-- The scan with a block open at this place. -/
def openBlockHere (lexeme : Lexeme) (s : Scan) : Scan :=
  s.openBlock s.cursor.column s.lexemes.size lexeme

/-- The blocks further right than a column closed, given those that are open. -/
def closeBlocksFrom (column : Int) : List Int → Scan → Scan
  | [], s => s
  | outer :: rest, s =>
    if s.indent ≤ column then s
    else
      closeBlocksFrom column rest
        { s with indent := outer, outerIndents := rest, lexemes := s.lexemes.push .blockEnd }

/-- The scan with the blocks further right than a column closed. -/
def closeBlocks (column : Int) (s : Scan) : Scan :=
  if s.inFlow then s else closeBlocksFrom column s.outerIndents s

/-! ### The next word -/

/-- The scan at its next word: behind spaces, comments and line breaks.  A line break outside
flow collections lets a key start, and where one may start tabs are no space. -/
def toNextWord : Nat → Scan → Scan
  | 0, s => s
  | fuel + 1, s =>
    let k := s.cursor
    let k := if k.column = 0 && k.sees (· = '\ufeff') then k.skip 1 else k
    let tabs := s.inFlow || !s.keyAllowed
    let k := (k.run fun c => c = ' ' || (tabs && c = '\t')).2.skipComment
    if k.sees isBreak then
      toNextWord fuel { s with cursor := k.lineBreak.2, keyAllowed := s.keyAllowed || !s.inFlow }
    else { s with cursor := k }

/-- A mark between documents. -/
def readDocumentMark (lexeme : Lexeme) (s : Scan) : Option Scan := do
  let s ← (s.closeBlocks (-1)).dropKey
  some ({ s with keyAllowed := false }.pushAt lexeme (s.cursor.skip 3))

/-- A directive. -/
def readDirective (s : Scan) : Option Scan := do
  let s ← (s.closeBlocks (-1)).dropKey
  let (lexeme, k) ← Lexeme.readDirective (s.cursor.skip 1)
  some ({ s with keyAllowed := false }.pushAt lexeme k)

/-- The start of a flow collection. -/
def readFlowStart (lexeme : Lexeme) (s : Scan) : Option Scan := do
  let s ← s.saveKey
  let s := { s with key := none, outerKeys := s.key :: s.outerKeys, keyAllowed := true }
  some (s.pushAt lexeme (s.cursor.skip 1))

/-- The end of a flow collection. -/
def readFlowEnd (lexeme : Lexeme) (s : Scan) : Option Scan := do
  let s ← s.dropKey
  let s := { s with
    key := s.outerKeys.headD none, outerKeys := s.outerKeys.tail, keyAllowed := false }
  some (s.pushAt lexeme (s.cursor.skip 1))

/-- The comma between the items of a flow collection. -/
def readFlowItem (s : Scan) : Option Scan := do
  let s ← s.dropKey
  some ({ s with keyAllowed := true }.pushAt .flowItem (s.cursor.skip 1))

/-- The dash in front of an item of a block. -/
def readBlockItem (s : Scan) : Option Scan := do
  if !s.inFlow && !s.keyAllowed then none
  else do
    let s ← (s.openBlockHere .blockSequence).dropKey
    some ({ s with keyAllowed := true }.pushAt .blockItem (s.cursor.skip 1))

/-- The question mark in front of a key. -/
def readKey (s : Scan) : Option Scan := do
  if !s.inFlow && !s.keyAllowed then none
  else do
    let s ← (s.openBlockHere .blockMapping).dropKey
    some ({ s with keyAllowed := !s.inFlow }.pushAt .key (s.cursor.skip 1))

/-- The colon behind a key: one that started at a kept place, or in the line above. -/
def readValue (s : Scan) : Option Scan :=
  match s.key with
  | some p =>
    let s := { s with
      lexemes := s.lexemes.insertIdxIfInBounds p.place .key, key := none, keyAllowed := false }
    some ((s.openBlock p.column p.place .blockMapping).pushAt .value (s.cursor.skip 1))
  | none =>
    if !s.inFlow && !s.keyAllowed then none
    else
      let s := s.openBlockHere .blockMapping
      some ({ s with keyAllowed := !s.inFlow }.pushAt .value (s.cursor.skip 1))

/-- A word that a key may start with: an alias, an anchor, a tag or a scalar on one line. -/
def readKeyWord (read : Cursor → Option (Lexeme × Cursor)) (s : Scan) : Option Scan := do
  let s ← s.saveKey
  let (lexeme, k) ← read (s.cursor.skip 1)
  some ({ s with keyAllowed := false }.pushAt lexeme k)

/-- Block text. -/
def readBlockText (literal : Bool) (s : Scan) : Option Scan := do
  let s ← s.dropKey
  let (text, k) ← Lexeme.readBlockText literal s.indent (s.cursor.skip 1)
  some ({ s with keyAllowed := true }.pushAt (.scalar false (String.ofList text)) k)

/-- A plain scalar; behind one that ends on a later line a key may start. -/
def readPlain (s : Scan) : Option Scan := do
  let s ← s.saveKey
  let k := s.cursor
  let margin := (s.indent + 1).toNat
  let (text, k, broken) ← Lexeme.readPlain s.inFlow margin (k.rest.length + 1) .none k
  some ({ s with keyAllowed := broken }.pushAt (.scalar true (String.ofList text)) k)

/-- A quoted scalar behind its quote. -/
def quoted (quote : Char) (k : Cursor) : Option (Lexeme × Cursor) := do
  let (text, k) ← Lexeme.readQuoted quote (k.rest.length + 1) k
  some (.scalar false (String.ofList text), k)

/-- Whether a plain scalar may start with a character, given what follows it. -/
def startsPlain (flow : Bool) (c : Char) (cs : List Char) : Bool :=
  if c = '-' then !cs.head?.any isGap
  else if c = '?' || c = ':' then !flow && !wordEnds cs
  else !("-?:,[]\x7b\x7d#&*!|>'\"%@`".toList.contains c || isSpacing c)

/-- The scan behind the word that starts with a character. -/
def readWord (c : Char) (cs : List Char) (s : Scan) : Option Scan :=
  let flow := s.inFlow
  let apart := flow || wordEnds cs
  if s.cursor.column = 0 && c = '%' then s.readDirective
  else if s.cursor.atMark '-' then s.readDocumentMark .documentStart
  else if s.cursor.atMark '.' then s.readDocumentMark .documentEnd
  else if c = '[' then s.readFlowStart .flowSequence
  else if c = '{' then s.readFlowStart .flowMapping
  else if c = ']' then s.readFlowEnd .flowSequenceEnd
  else if c = '}' then s.readFlowEnd .flowMappingEnd
  else if c = ',' then s.readFlowItem
  else if c = '-' && wordEnds cs then s.readBlockItem
  else if c = '?' && apart then s.readKey
  else if c = ':' && apart then s.readValue
  else if c = '*' then s.readKeyWord fun k => (Lexeme.readName k).map fun (n, k) => (.aliasOf n, k)
  else if c = '&' then s.readKeyWord fun k => (Lexeme.readName k).map fun (n, k) => (.anchor n, k)
  else if c = '!' then s.readKeyWord (Lexeme.readTag flow)
  else if c = '|' && !flow then s.readBlockText true
  else if c = '>' && !flow then s.readBlockText false
  else if c = '\'' || c = '"' then s.readKeyWord (quoted c)
  else if startsPlain flow c cs then s.readPlain
  else none

/-- The scan with the text read to its end. -/
def toEnd : Nat → Scan → Option Scan
  | 0, _ => none
  | fuel + 1, s => do
    let s ← (toNextWord (s.cursor.rest.length + 1) s).dropStaleKeys
    let s := s.closeBlocks s.cursor.column
    match s.cursor.rest with
    | [] => (s.closeBlocks (-1)).dropKey
    | c :: cs => do
      let s ← s.readWord c cs
      toEnd fuel s

end Scan

/-- The words of a text, or nothing if it is malformed.  A byte order mark at its start does
not count. -/
def lexemes? (text : String) : Option (List Lexeme) :=
  let cs := match text.toList with
    | '\ufeff' :: cs => cs
    | cs => cs
  if cs.all isPrintable then
    ((Scan.ofText cs).toEnd (cs.length + 1)).map (·.lexemes.toList)
  else none

end Lookout.Yaml
