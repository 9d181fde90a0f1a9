/-
The generic value that search results, query bodies and decoded definitions are made of.

Six kinds and no others.  A map holds its entries in the order of their keys, so that two
maps with the same entries are the same map however they were built.
-/
import Lookout.Value.Number
import Lookout.Value.Entries

namespace Lookout

/-- A value without a schema. -/
inductive Value where
  | null
  | bool (b : Bool)
  | number (n : Number)
  | string (s : String)
  | list (items : List Value)
  | map (entries : List (String × Value))

instance : Inhabited Value := ⟨.null⟩

/-- The six kinds of value. -/
inductive ValueKind where
  | null | bool | number | string | list | map
deriving DecidableEq, Repr

/-- The name of a kind. -/
def ValueKind.name : ValueKind → String
  | .null => "null"
  | .bool => "bool"
  | .number => "number"
  | .string => "string"
  | .list => "list"
  | .map => "map"

namespace Value

/-- The kind of a value. -/
def kind : Value → ValueKind
  | null => .null
  | bool _ => .bool
  | number _ => .number
  | string _ => .string
  | list _ => .list
  | map _ => .map

/-! ### Building -/

/-- The value of a float: NaN and the infinities, which no number holds, become text. -/
def ofFloat (x : Float) : Value :=
  match Number.ofFloat? x with
  | some n => number n
  | none => string (if x.isNaN then "NaN" else if x < 0 then "-inf" else "inf")

/-- The value of an integer: one that does not fit a word becomes its decimal text. -/
def ofInt (n : Int) : Value :=
  match Number.ofInt? n with
  | some m => number m
  | none => string (String.ofList (integerText n))

/-- The map that a sequence of pairs builds; of pairs with one key the last one counts. -/
def ofPairs (pairs : List (String × Value)) : Value :=
  map (Entries.ofList pairs)

/-- A map with one more entry; any other value stays as it is. -/
def insert (v : Value) (key : String) (value : Value) : Value :=
  match v with
  | map entries => map (Entries.insert key value entries)
  | v => v

/-! ### Views -/

/-- Truth as condition scripts see it: null, false, zero and whatever is empty is false. -/
def isTruthy : Value → Bool
  | null => false
  | bool b => b
  | number n => !n.isZero
  | string s => !s.isEmpty
  | list items => !items.isEmpty
  | map entries => !entries.isEmpty

/-- The text of a string value. -/
def string? : Value → Option String
  | string s => some s
  | _ => none

/-- The truth value of a boolean. -/
def bool? : Value → Option Bool
  | bool b => some b
  | _ => none

/-- The number of a number value. -/
def number? : Value → Option Number
  | number n => some n
  | _ => none

/-- The items of a list. -/
def list? : Value → Option (List Value)
  | list items => some items
  | _ => none

/-- The entries of a map. -/
def map? : Value → Option (List (String × Value))
  | map entries => some entries
  | _ => none

/-- The value that a map binds to a key. -/
def get? (key : String) : Value → Option Value
  | map entries => Entries.find? key entries
  | _ => none

/-- The item of a list at a position. -/
def item? (index : Nat) : Value → Option Value
  | list items => items[index]?
  | _ => none

/-! ### Equality -/

mutual

/-- Equality of values: numbers by `Number.beq`, containers part by part. -/
def beq : Value → Value → Bool
  | null, null => true
  | bool a, bool b => a == b
  | number m, number n => m == n
  | string s, string t => s == t
  | list xs, list ys => beqItems xs ys
  | map es, map fs => beqEntries es fs
  | _, _ => false

/-- Item by item equality of two lists. -/
def beqItems : List Value → List Value → Bool
  | [], [] => true
  | x :: xs, y :: ys => beq x y && beqItems xs ys
  | _, _ => false

/-- Entry by entry equality of two maps. -/
def beqEntries : List (String × Value) → List (String × Value) → Bool
  | [], [] => true
  | (k, x) :: es, (l, y) :: fs => k == l && beq x y && beqEntries es fs
  | _, _ => false

end

instance : BEq Value := ⟨beq⟩

end Value

end Lookout
