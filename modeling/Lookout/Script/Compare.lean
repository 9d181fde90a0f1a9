/-
Equality, order and keys.

Integers and floats compare by value, NaN equals itself and comes after every other number.
Sequences compare item by item.  Only data that cannot change can be keys.
-/
import Lookout.Script.Machine

namespace Lookout.Script

/-- A number: an integer or a float. -/
inductive Num where
  | int (n : Int)
  | float (x : Float)

namespace Num

/-- The number of a datum. -/
def ofDatum? : Datum → Option Num
  | .int n => some (.int n)
  | .float x => some (.float x)
  | _ => none

/-- The number as a float. -/
def toFloat : Num → Float
  | int n => Float.ofInt n
  | float x => x

/-- The order of floats, with NaN last and equal to itself. -/
def compareFloats (x y : Float) : Ordering :=
  if x.isNaN then (if y.isNaN then .eq else .gt)
  else if y.isNaN then .lt
  else if x < y then .lt
  else if x == y then .eq
  else .gt

/-- The order of numbers. -/
def compare : Num → Num → Ordering
  | int m, int n => Ord.compare m n
  | a, b => compareFloats a.toFloat b.toFloat

end Num

/-- How many numbers a range holds. -/
def rangeLength (start stop step : Int) : Nat :=
  if 0 < step then ((stop - start + step - 1) / step).toNat
  else if step < 0 then ((start - stop - step - 1) / (-step)).toNat
  else 0

/-- Whether two ranges hold the same numbers. -/
def sameRange (a b c x y z : Int) : Bool :=
  let n := rangeLength a b c
  n == rangeLength x y z && (n == 0 || (a == x && (n == 1 || c == z)))

/-- Whether a check holds for all pairs of two lists of one length. -/
def allPairs {α : Type} (check : α → α → Except Fault Bool) : List α → List α → Except Fault Bool
  | [], [] => .ok true
  | x :: xs, y :: ys => do
    if ← check x y then allPairs check xs ys else .ok false
  | _, _ => .ok false

/-- Whether every entry of a list has a partner that the check accepts. -/
def allFound {α : Type} (check : α → Except Fault Bool) : List α → Except Fault Bool
  | [] => .ok true
  | x :: xs => do
    if ← check x then allFound check xs else .ok false

/-- The first entry whose key the check accepts. -/
def findKey {α β : Type} (check : α → Except Fault Bool) : List (α × β) → Except Fault (Option β)
  | [] => .ok none
  | (k, v) :: rest => do
    if ← check k then .ok (some v) else findKey check rest

/-- Whether two data are equal. -/
def equalWithin (m : Machine) : Nat → Datum → Datum → Except Fault Bool
  | 0, _, _ => .error .callStackOverflow
  | fuel + 1, a, b =>
    match a, b with
    | .string s, .string t => .ok (s == t)
    | .none, .none => .ok true
    | .ellipsis, .ellipsis => .ok true
    | .bool x, .bool y => .ok (x == y)
    | .tuple xs, .tuple ys => allPairs (equalWithin m fuel) xs ys
    | .range p q r, .range x y z => .ok (sameRange p q r x y z)
    | .struct fs, .struct gs =>
      if fs.length = gs.length then
        allFound (fun (name, v) =>
          match gs.lookup name with
          | some w => equalWithin m fuel v w
          | none => .ok false) fs
      else .ok false
    | .builtin f, .builtin g => .ok (f = g)
    | .textMethod s f, .textMethod t g => .ok (s == t && f = g)
    | .listMethod x f, .listMethod y g => .ok (x == y && f = g)
    | .dictMethod x f, .dictMethod y g => .ok (x == y && f = g)
    | .function x, .function y => .ok (x == y)
    | .list x, .list y =>
      if x == y then .ok true
      else if (m.items x).size = (m.items y).size then
        allPairs (equalWithin m fuel) (m.items x).toList (m.items y).toList
      else .ok false
    | .dict x, .dict y =>
      if x == y then .ok true
      else if (m.entries x).length = (m.entries y).length then
        allFound (fun (k, v) => do
          match ← findKey (equalWithin m fuel k) (m.entries y) with
          | some w => equalWithin m fuel v w
          | none => .ok false) (m.entries x)
      else .ok false
    | a, b =>
      match Num.ofDatum? a, Num.ofDatum? b with
      | some p, some q => .ok (p.compare q == .eq)
      | _, _ => .ok false

/-- The order of two lists whose items are ordered: the first pair that differs decides, then
the length. -/
def compareItems {α : Type} (order : α → α → Except Fault Ordering) :
    List α → List α → Except Fault Ordering
  | [], [] => .ok .eq
  | [], _ :: _ => .ok .lt
  | _ :: _, [] => .ok .gt
  | x :: xs, y :: ys => do
    match ← order x y with
    | .eq => compareItems order xs ys
    | o => .ok o

/-- The order of two data, where they have one. -/
def compareWithin (m : Machine) : Nat → Datum → Datum → Except Fault Ordering
  | 0, _, _ => .error .callStackOverflow
  | fuel + 1, a, b =>
    match a, b with
    | .string s, .string t => .ok (Ord.compare s t)
    | .bool x, .bool y => .ok (Ord.compare x.toNat y.toNat)
    | .tuple xs, .tuple ys => compareItems (compareWithin m fuel) xs ys
    | .list x, .list y =>
      compareItems (compareWithin m fuel) (m.items x).toList (m.items y).toList
    | a, b =>
      match Num.ofDatum? a, Num.ofDatum? b with
      | some p, some q => .ok (p.compare q)
      | _, _ =>
        let operation := match a with
          | .string _ => "cmp()"
          | _ => "compare"
        .error (.unsupportedPair operation a.typeName b.typeName)

mutual

/-- The type in a datum that keeps it from being a key. -/
def changeable? : Datum → Option String
  | .list _ => some "list"
  | .dict _ => some "dict"
  | .iterator _ => some "iterator"
  | .tuple items => changeableItem? items
  | .struct fields => changeableField? fields
  | _ => none

/-- The first such type in a list of data. -/
def changeableItem? : List Datum → Option String
  | [] => none
  | d :: ds => (changeable? d).or (changeableItem? ds)

/-- The first such type in the fields of a struct. -/
def changeableField? : List (String × Datum) → Option String
  | [] => none
  | (_, d) :: ds => (changeable? d).or (changeableField? ds)

end

/-- How deep data are compared before it is too deep. -/
def compareDepth : Nat := 3000

namespace Machine

/-- Whether two data are equal. -/
def equal (m : Machine) (a b : Datum) : Except Fault Bool :=
  equalWithin m compareDepth a b

/-- The order of two data. -/
def compare (m : Machine) (a b : Datum) : Except Fault Ordering :=
  compareWithin m compareDepth a b

/-- The value that a dictionary binds to a key. -/
def lookup (m : Machine) (a : Addr) (key : Datum) : Except Fault (Option Datum) :=
  match changeable? key with
  | some type => .error (.notHashable type)
  | none => findKey (m.equal key) (m.entries a)

end Machine

/-- The place of the first key that the check accepts, counted on from `i`. -/
def findPlace {α β : Type} (check : α → Except Fault Bool) (i : Nat) :
    List (α × β) → Except Fault (Option Nat)
  | [] => .ok none
  | (k, _) :: rest => do
    if ← check k then .ok (some i) else findPlace check (i + 1) rest

/-- The place of a key among the entries of a dictionary. -/
def Machine.keyPlace (m : Machine) (a : Addr) (key : Datum) : Except Fault (Option Nat) :=
  match changeable? key with
  | some type => .error (.notHashable type)
  | none => findPlace (m.equal key) 0 (m.entries a)

/-- Entries with a key bound: in its place, or behind all others. -/
def enterAt (place : Option Nat) (key value : Datum) (entries : List (Datum × Datum)) :
    List (Datum × Datum) :=
  match place with
  | some i => entries.modify i fun entry => (entry.1, value)
  | none => entries ++ [(key, value)]

namespace Eval

/-- Checks that a datum can be a key. -/
def checkKey (key : Datum) : Eval Unit :=
  match changeable? key with
  | some type => fail (.notHashable type)
  | none => pure ()

/-- Whether two data are equal. -/
def equal (a b : Datum) : Eval Bool :=
  readOr fun m => m.equal a b

/-- The order of two data. -/
def compare (a b : Datum) : Eval Ordering :=
  readOr fun m => m.compare a b

/-- The value that a dictionary binds to a key. -/
def lookup (a : Addr) (key : Datum) : Eval (Option Datum) :=
  readOr fun m => m.lookup a key

/-- Binds a key in a dictionary. -/
def enterKey (a : Addr) (key value : Datum) : Eval Unit := do
  checkKey key
  let place ← readOr fun m => m.keyPlace a key
  changeEntries a (enterAt place key value)

end Eval

end Lookout.Script
