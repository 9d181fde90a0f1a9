/-
The nodes of a document, composed from its words.

A node may carry an anchor, by which aliases elsewhere in the document stand for it.  Anchors
are told apart by a number: how many names were in use when the anchor came.  A name that is
used again changes its number, so two anchors can share one; the later of them then counts.
-/
import Lookout.Yaml.Scan

namespace Lookout.Yaml

/-- A node of a document. -/
inductive Node where
  | aliasOf (anchor : Nat)
  | scalar (anchor : Option Nat) (tag : Option String) (plain : Bool) (text : String)
  | sequence (anchor : Option Nat) (tag : Option String) (items : List Node)
  | mapping (anchor : Option Nat) (tag : Option String) (pairs : List (Node × Node))
deriving Inhabited

/-- A scalar without text. -/
def Node.empty : Node := .scalar none none true ""

/-! ### Reading nodes -/

/-- What is left to read of a document, and what its directives and anchors declare. -/
structure NodeSource where
  lexemes : List Lexeme
  /-- What tag handles stand for. -/
  handles : List (String × String)
  /-- The anchors that came so far, and their numbers. -/
  anchors : List (String × Nat)

/-- Reading of a part of a document; it fails on malformed ones. -/
abbrev Reading (α : Type) : Type := StateT NodeSource Option α

namespace Reading

/-- Malformed. -/
def fail {α : Type} : Reading α :=
  fun _ => none

/-- The next word, if there is one. -/
def peek : Reading (Option Lexeme) := do
  return (← get).lexemes.head?

/-- Passes the next word. -/
def skip : Reading Unit :=
  modify fun s => { s with lexemes := s.lexemes.tail }

/-- Whether the next word is one of some. -/
def sees (lexemes : List Lexeme) : Reading Bool := do
  return (← peek).any lexemes.contains

/-- Passes the next word if it is the given one, and tells whether it was. -/
def accept (lexeme : Lexeme) : Reading Bool := do
  if (← peek) = some lexeme then
    skip
    return true
  else return false

/-- Passes the comma in front of an item that is not the first, and tells whether it was
there. -/
def separator (first : Bool) : Reading Bool :=
  if first then pure true else accept .flowItem

/-- An anchor, if one comes next: its number. -/
def anchor : Reading (Option Nat) := do
  match ← peek with
  | some (.anchor name) =>
    skip
    let s ← get
    let number := s.anchors.length
    set { s with anchors := (name, number) :: s.anchors.filter (·.1 ≠ name) }
    return some number
  | _ => return none

/-- A tag, if one comes next, in full. -/
def tag : Reading (Option String) := do
  match ← peek with
  | some (.tag handle suffix) =>
    skip
    if handle = "" then return some suffix
    else match (← get).handles.lookup handle with
      | some start => return some (start ++ suffix)
      | none => fail
  | _ => return none

/-- An anchor and a tag in any order; both may be absent. -/
def properties : Reading (Option Nat × Option String) := do
  match ← anchor with
  | some number => return (some number, ← tag)
  | none =>
    let name ← tag
    if name.isSome then return (← anchor, name) else return (none, none)

/-- The tag of a scalar; a lone mark is no tag. -/
def scalarTag (name : Option String) : Option String :=
  name.filter (· ≠ "!")

mutual

/-- A node.  Blocks are read only where `block` is set, and items of a sequence at the
indentation of the mapping around it only where `loose` is. -/
def node (block loose : Bool) : Nat → Reading Node
  | 0 => fail
  | fuel + 1 => do
    match ← peek with
    | some (.aliasOf name) =>
      skip
      match (← get).anchors.lookup name with
      | some number => return .aliasOf number
      | none => fail
    | _ =>
      let (number, name) ← properties
      match ← peek with
      | some (.scalar plain text) =>
        skip
        return .scalar number (scalarTag name) plain text
      | some .flowSequence =>
        skip
        return .sequence number name (← flowItems true fuel)
      | some .flowMapping =>
        skip
        return .mapping number name (← flowPairs true fuel)
      | next =>
        if loose && next = some .blockItem then
          return .sequence number name (← looseItems fuel)
        else if block && next = some .blockSequence then
          skip
          return .sequence number name (← blockItems fuel)
        else if block && next = some .blockMapping then
          skip
          return .mapping number name (← blockPairs fuel)
        else if number.isSome || name.isSome then return .scalar number name true ""
        else fail

/-- A node, or an empty one before any of the words `ends`. -/
def nodeBefore (ends : List Lexeme) (block loose : Bool) : Nat → Reading Node
  | 0 => fail
  | fuel + 1 => do
    if ← sees ends then return .empty else node block loose fuel

/-- The items of a block sequence to its end. -/
def blockItems : Nat → Reading (List Node)
  | 0 => fail
  | fuel + 1 => do
    if ← accept .blockItem then
      let item ← nodeBefore [.blockItem, .blockEnd] true false fuel
      return item :: (← blockItems fuel)
    else if ← accept .blockEnd then return []
    else fail

/-- The items of a sequence without a block of its own. -/
def looseItems : Nat → Reading (List Node)
  | 0 => fail
  | fuel + 1 => do
    if ← accept .blockItem then
      let item ← nodeBefore [.blockItem, .key, .value, .blockEnd] true false fuel
      return item :: (← looseItems fuel)
    else return []

/-- The pairs of a block mapping to its end. -/
def blockPairs : Nat → Reading (List (Node × Node))
  | 0 => fail
  | fuel + 1 => do
    if ← accept .key then
      let key ← nodeBefore [.key, .value, .blockEnd] true true fuel
      let value ←
        if ← accept .value then nodeBefore [.key, .value, .blockEnd] true true fuel
        else pure .empty
      return (key, value) :: (← blockPairs fuel)
    else if ← accept .blockEnd then return []
    else fail

/-- The items of a flow sequence to its end; `first` when none was read yet.  A key in front
of an item makes it a mapping of one pair. -/
def flowItems (first : Bool) : Nat → Reading (List Node)
  | 0 => fail
  | fuel + 1 => do
    if ← accept .flowSequenceEnd then return []
    else if !(← separator first) then fail
    else if ← accept .key then
      let pair ← flowPair fuel
      return .mapping none none [pair] :: (← flowItems false fuel)
    else if ← accept .flowSequenceEnd then return []
    else
      let item ← node false false fuel
      return item :: (← flowItems false fuel)

/-- The only pair of a mapping among the items of a flow sequence.  Where its key is empty
the word behind it is passed. -/
def flowPair : Nat → Reading (Node × Node)
  | 0 => fail
  | fuel + 1 => do
    let key ←
      if ← sees [.value, .flowItem, .flowSequenceEnd] then
        skip
        pure .empty
      else node false false fuel
    let value ←
      if ← accept .value then nodeBefore [.flowItem, .flowSequenceEnd] false false fuel
      else pure .empty
    return (key, value)

/-- The pairs of a flow mapping to its end; `first` when none was read yet. -/
def flowPairs (first : Bool) : Nat → Reading (List (Node × Node))
  | 0 => fail
  | fuel + 1 => do
    if ← accept .flowMappingEnd then return []
    else if !(← separator first) then fail
    else if ← accept .key then
      let key ← nodeBefore [.value, .flowItem, .flowMappingEnd] false false fuel
      let value ←
        if ← accept .value then nodeBefore [.flowItem, .flowMappingEnd] false false fuel
        else pure .empty
      return (key, value) :: (← flowPairs false fuel)
    else if ← accept .flowMappingEnd then return []
    else
      let key ← node false false fuel
      return (key, .empty) :: (← flowPairs false fuel)

end

/-! ### Directives and documents -/

/-- Whether a version of the language is one that is read. -/
def isKnownVersion (major minor : Nat) : Bool :=
  major = 1 && (minor = 1 || minor = 2)

/-- The directives in front of a document.  At most one names the version, and none declares
a handle twice. -/
def directives (versioned : Bool) : Nat → Reading Unit
  | 0 => fail
  | fuel + 1 => do
    match ← peek with
    | some (.version major minor) =>
      if versioned || !isKnownVersion major minor then fail
      else
        skip
        directives true fuel
    | some (.tagHandle handle start) =>
      let s ← get
      if (s.handles.lookup handle).isSome then fail
      else
        set { s with lexemes := s.lexemes.tail, handles := (handle, start) :: s.handles }
        directives versioned fuel
    | _ => return ()

/-- The handles that stand for something without a directive. -/
def defaultHandles : List (String × String) :=
  [("!", "!"), ("!!", "tag:yaml.org,2002:")]

/-- The root of a document; it is empty if the text has no words at all. -/
def root : Reading Node := do
  let fuel := 4 * (← get).lexemes.length + 4
  match ← peek with
  | none => return .empty
  | some (.version _ _) | some (.tagHandle _ _) | some .documentStart =>
    directives false fuel
    if !(← accept .documentStart) then fail
    else
      modify fun s => { s with handles := s.handles ++ defaultHandles }
      match ← peek with
      | none | some .documentStart | some .documentEnd
      | some (.version _ _) | some (.tagHandle _ _) => return .empty
      | some _ => node true false fuel
  | some _ =>
    modify fun s => { s with handles := defaultHandles }
    node true false fuel

/-- Passes the words that end documents. -/
def documentEnds : Nat → Reading Unit
  | 0 => return ()
  | fuel + 1 => do
    if ← accept .documentEnd then documentEnds fuel else return ()

/-- The root of the only document of a text. -/
def onlyRoot : Reading Node := do
  let found ← root
  documentEnds (← get).lexemes.length
  if (← get).lexemes.isEmpty then return found else fail

end Reading

/-! ### Whole documents -/

namespace Node

mutual

/-- How long the document's description is: a collection counts for its start and end. -/
def size : Node → Nat
  | aliasOf _ => 1
  | scalar _ _ _ _ => 1
  | sequence _ _ items => 2 + itemsSize items
  | mapping _ _ pairs => 2 + pairsSize pairs

/-- The sizes of nodes together. -/
def itemsSize : List Node → Nat
  | [] => 0
  | n :: ns => size n + itemsSize ns

/-- The sizes of pairs of nodes together. -/
def pairsSize : List (Node × Node) → Nat
  | [] => 0
  | (k, v) :: pairs => size k + size v + pairsSize pairs

end

mutual

/-- The nodes in a node that carry an anchor, in the order of their starts. -/
def anchored : Node → List (Nat × Node)
  | aliasOf _ => []
  | n@(scalar anchor _ _ _) => (anchor.map fun a => (a, n)).toList
  | n@(sequence anchor _ items) => (anchor.map fun a => (a, n)).toList ++ itemsAnchored items
  | n@(mapping anchor _ pairs) => (anchor.map fun a => (a, n)).toList ++ pairsAnchored pairs

/-- The nodes in a list of nodes that carry an anchor. -/
def itemsAnchored : List Node → List (Nat × Node)
  | [] => []
  | n :: ns => anchored n ++ itemsAnchored ns

/-- The nodes in a list of pairs that carry an anchor. -/
def pairsAnchored : List (Node × Node) → List (Nat × Node)
  | [] => []
  | (k, v) :: pairs => anchored k ++ anchored v ++ pairsAnchored pairs

end

/-- The root of the only document of a text, or nothing if the text is malformed, has an alias
without an anchor before it, or has several documents. -/
def ofText? (text : String) : Option Node := do
  let lexemes ← lexemes? text
  let (root, _) ← Reading.onlyRoot.run ⟨lexemes, [], []⟩
  some root

end Node

end Lookout.Yaml
