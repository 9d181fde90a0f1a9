/-
The generic tree of a document, which keeps its tags and the kinds of its keys.

Integers beyond 64 bits have no place in a tree, and no mapping has a key twice.  The value of
a tree drops the tags and makes text of the keys.
-/
import Lookout.Yaml.Decode

namespace Lookout.Yaml

/-- A generic tree. -/
inductive Tree where
  | null
  | bool (b : Bool)
  | int (n : Int)
  | float (x : Float)
  | string (s : String)
  | sequence (items : List Tree)
  | mapping (pairs : List (Tree × Tree))
  | tagged (tag : String) (content : Tree)
deriving Inhabited

namespace Tree

/-! ### Keys -/

/-- Whether two floats are the same key: NaN is the same as NaN. -/
def sameFloat (x y : Float) : Bool :=
  (x.isNaN && y.isNaN) || x == y

mutual

/-- Whether two trees are the same key.  Mappings are compared without order. -/
def same : Tree → Tree → Bool
  | null, null => true
  | bool a, bool b => a == b
  | int m, int n => m == n
  | float x, float y => sameFloat x y
  | string s, string t => s == t
  | sequence xs, sequence ys => sameItems xs ys
  | mapping ps, mapping qs => ps.length == qs.length && samePairs ps qs
  | tagged t x, tagged u y => t == u && same x y
  | _, _ => false

/-- Whether items are the same, one by one. -/
def sameItems : List Tree → List Tree → Bool
  | [], [] => true
  | x :: xs, y :: ys => same x y && sameItems xs ys
  | _, _ => false

/-- Whether each of some pairs is among others. -/
def samePairs : List (Tree × Tree) → List (Tree × Tree) → Bool
  | [], _ => true
  | (k, v) :: ps, qs => qs.any (fun q => same k q.1 && same v q.2) && samePairs ps qs

end

/-- A key that comes twice, in words. -/
def shownKey : Tree → String
  | null => "with null key"
  | bool b => "with key `" ++ (if b then "true" else "false") ++ "`"
  | int n => "with key " ++ String.ofList (integerText n)
  | float x => "with key " ++ shownFloat x
  | string s => "with key " ++ quoted s
  | _ => "in YAML map"
where
  shownFloat (x : Float) : String :=
    if x.isNaN then ".nan"
    else if x.isInf then (if x < 0 then "-.inf" else ".inf")
    else String.ofList (plainFloatText x)

/-! ### Values -/

mutual

/-- The value of a tree; of entries whose keys have the same text the last one counts. -/
def toValue : Tree → Value
  | null => .null
  | bool b => .bool b
  | int n => .ofInt n
  | float x => .ofFloat x
  | string s => .string s
  | sequence items => .list (itemValues items)
  | mapping pairs => .map (entriesOf [] pairs)
  | tagged _ content => toValue content

/-- The values of items. -/
def itemValues : List Tree → List Value
  | [] => []
  | t :: ts => toValue t :: itemValues ts

/-- Entries with those of some pairs entered one after the other. -/
def entriesOf (entries : List (String × Value)) : List (Tree × Tree) → List (String × Value)
  | [] => entries
  | (k, v) :: pairs => entriesOf (Entries.insert (toValue k).keyText (toValue v) entries) pairs

end

end Tree

/-! ### Trees of data -/

/-- The tree of a scalar. -/
def Scalar.toTree : Scalar → Except Error Tree
  | null => .ok .null
  | bool b => .ok (.bool b)
  | unsigned n => .ok (.int n)
  | signed n => .ok (.int n)
  | float x => .ok (.float x)
  | text s => .ok (.string s)
  | wide => .error (.here (.wrongType (.scalar wide) "any YAML value"))

namespace Data

/-- The name of a local tag: without its mark, unless it is nothing else. -/
def localName? (tag : Option String) : Option String :=
  tag.bind fun name =>
    match name.toList with
    | ['!'] => some "!"
    | '!' :: cs => some (String.ofList cs)
    | _ => none

/-- A tree under a tag, if the tag is local to the document. -/
def treeUnderTag (tag : Option String) (t : Tree) : Tree :=
  match localName? tag with
  | some name => .tagged name t
  | none => t

mutual

/-- The tree of data. -/
def toTree : Data → Except Error Tree
  | scalar tag plain text => do
    let s ← readScalar tag plain text
    let t ← s.toTree
    .ok (treeUnderTag tag t)
  | sequence tag items => do
    let ts ← itemTrees 0 items
    .ok (treeUnderTag tag (.sequence ts))
  | mapping tag pairs => do
    let ps ← pairTrees [] pairs
    .ok (treeUnderTag tag (.mapping ps))
  | excess limit => .error (.here (.excess limit))

/-- The trees of items, the first of which has the given number. -/
def itemTrees (index : Nat) : List Data → Except Error (List Tree)
  | [] => .ok []
  | d :: ds => do
    let t ← (toTree d).mapError (·.under (.item index))
    let ts ← itemTrees (index + 1) ds
    .ok (t :: ts)

/-- The trees of pairs; no key may be the same as one before it. -/
def pairTrees (before : List Tree) :
    List (Option String × Data × Data) → Except Error (List (Tree × Tree))
  | [] => .ok []
  | (label, key, value) :: pairs => do
    let k ← toTree key
    if before.any (Tree.same k) then .error (.here (.duplicateKey k.shownKey))
    else do
      let v ← (toTree value).mapError (·.under (.entry label))
      let ps ← pairTrees (k :: before) pairs
      .ok ((k, v) :: ps)

end

end Data

/-- The generic tree that a document holds. -/
def Tree.ofText (text : String) : Except Error Tree :=
  readText Data.toTree text

end Lookout.Yaml
