/-
Going through data, and taking parts of them by position.

Positions count from the front, or from the back if negative.  While a list or dictionary is
gone through it cannot be changed.
-/
import Lookout.Script.Compare
import Lookout.Script.Show

namespace Lookout.Script

/-! ### Going through -/

/-- What goes on behind a round of a loop, or behind a statement. -/
inductive Flow where
  | next
  | leaveLoop
  | nextRound
  | giveBack (d : Datum)

/-- Rounds over the numbers of a range. -/
def countRounds (step : Int) (round : Datum → Eval Flow) : Nat → Int → Eval Flow
  | 0, _ => pure .next
  | rounds + 1, n => do
    match ← round (.int n) with
    | .leaveLoop => pure .next
    | .giveBack d => pure (.giveBack d)
    | _ => countRounds step round rounds (n + step)

/-- Rounds over items. -/
def itemRounds (round : Datum → Eval Flow) : List Datum → Eval Flow
  | [] => pure .next
  | d :: ds => do
    match ← round d with
    | .leaveLoop => pure .next
    | .giveBack d => pure (.giveBack d)
    | _ => itemRounds round ds

/-- The numbers of a range. -/
def rangeItems (step : Int) : Nat → Int → List Datum
  | 0, _ => []
  | rounds + 1, n => .int n :: rangeItems step rounds (n + step)

/-- The items that going through a datum gives. -/
def Machine.itemsOf (m : Machine) : Datum → Except Fault (List Datum)
  | .tuple items => .ok items
  | .iterator items => .ok items
  | .range start stop step => .ok (rangeItems step (rangeLength start stop step) start)
  | .list a => .ok (m.items a).toList
  | .dict a => .ok ((m.entries a).map (·.1))
  | d => .error (.unsupported "(iter)" d.typeName)

namespace Eval

/-- The items that going through a datum gives. -/
def itemsOf (d : Datum) : Eval (List Datum) :=
  readOr fun m => m.itemsOf d

/-- A round for each item of a datum, until one leaves the loop. -/
def forEach (source : Datum) (round : Datum → Eval Flow) : Eval Flow :=
  match source with
  | .range start stop step => countRounds step round (rangeLength start stop step) start
  | .list a => do
    let items ← itemsOf source
    reading a (itemRounds round items)
  | .dict a => do
    let items ← itemsOf source
    reading a (itemRounds round items)
  | _ => do
    let items ← itemsOf source
    itemRounds round items

/-- A datum shown as the script would write it. -/
def shown (d : Datum) : Eval String :=
  read fun m => m.shown d

/-- A datum as text. -/
def plainText (d : Datum) : Eval String :=
  read fun m => m.plainText d

end Eval

/-! ### Positions -/

/-- The bound of the numbers that count positions. -/
def indexBound : Int := 0x80000000

/-- Whether a number can count positions. -/
def isIndex (n : Int) : Bool :=
  -indexBound ≤ n && n < indexBound

/-- The position that a datum gives. -/
def Machine.indexOf (m : Machine) : Datum → Except Fault Int
  | .int n => if isIndex n then .ok n else .error (.tooBigForIndex n)
  | d => .error (.expectedInt d.typeName (m.shown d))

/-- A position counted from the front. -/
def fromFront (length : Nat) (n : Int) : Int :=
  if n < 0 then length + n else n

/-- The place of an item; the fault shows the position counted from the front. -/
def placeOf (length : Nat) (n : Int) : Except Fault Nat :=
  let i := fromFront length n
  if 0 ≤ i && i < length then .ok i.toNat else .error (.indexOutOfBound i)

/-- A number kept within bounds. -/
def clamp (low high n : Int) : Int :=
  if n < low then low else if high < n then high else n

/-- The end of a slice, counted from the front and kept within bounds. -/
def Machine.sliceEnd (m : Machine) (length : Nat) (low high fallback : Int) :
    Option Datum → Except Fault Int
  | none => .ok fallback
  | some .none => .ok fallback
  | some d => do
    let n ← m.indexOf d
    .ok (clamp low high (fromFront length n))

/-- A slice: where it starts, where it stops, and how far it goes in a step. -/
structure Slice where
  start : Int
  stop : Int
  step : Int

/-- The slice of a sequence that three data describe. -/
def Machine.sliceOf (m : Machine) (length : Nat) (start stop step : Option Datum) :
    Except Fault Slice := do
  let step ← match step with
    | none => .ok 1
    | some .none => .ok 1
    | some d => m.indexOf d
  if step = 0 then .error (.indexOutOfBound 0)
  else
    let low : Int := if step < 0 then -1 else 0
    let high : Int := if step < 0 then (length : Int) - 1 else length
    let first ← m.sliceEnd length low high (if step < 0 then high else low) start
    let last ← m.sliceEnd length low high (if step < 0 then low else high) stop
    .ok ⟨first, last, step⟩

/-- The positions in a slice, in order. -/
def Slice.places (s : Slice) : List Nat :=
  (List.range (rangeLength s.start s.stop s.step)).map fun (i : Nat) =>
    (s.start + (i : Int) * s.step).toNat

/-- The items of a sequence at the positions of a slice. -/
def Slice.pick {α : Type} (s : Slice) (items : Array α) : List α :=
  s.places.filterMap (items[·]?)

namespace Eval

/-- The item of a datum at an index. -/
def itemAt (owner index : Datum) : Eval Datum := do
  match owner with
  | .list a =>
    let n ← readOr fun m => m.indexOf index
    let items ← read fun m => m.items a
    let i ← ofExcept (placeOf items.size n)
    pure (items.getD i .none)
  | .tuple items =>
    let n ← readOr fun m => m.indexOf index
    let i ← ofExcept (placeOf items.length n)
    pure (items.getD i .none)
  | .string s =>
    let n ← readOr fun m => m.indexOf index
    let cs := s.toList
    let i ← ofExcept (placeOf cs.length n)
    pure (.string (String.ofList ((cs.drop i).take 1)))
  | .range start stop step =>
    let n ← readOr fun m => m.indexOf index
    let i ← ofExcept (placeOf (rangeLength start stop step) n)
    pure (.int (start + i * step))
  | .dict a =>
    match ← lookup a index with
    | some d => pure d
    | none =>
      let key ← shown index
      fail (.keyNotFound key)
  | d => fail (.unsupportedPair "[]" d.typeName index.typeName)

/-- Puts an item into a list or dictionary. -/
def setItem (owner index value : Datum) : Eval Unit := do
  match owner with
  | .list a =>
    let m ← get
    if a < m.frozen then fail .immutable
    else
      let n ← readOr fun m => m.indexOf index
      let size ← read fun m => (m.items a).size
      let i ← ofExcept (placeOf size n)
      changeItems a fun items => items.setIfInBounds i value
  | .dict a =>
    let m ← get
    if a < m.frozen then fail .immutable else enterKey a index value
  | _ => fail .immutable

/-- The slice of a datum.  The worker does not survive the greatest step backwards. -/
def sliceOf (owner : Datum) (start stop step : Option Datum) : Eval Datum := do
  match owner with
  | .range first last by_ =>
    let s ← readOr fun m => m.sliceOf (rangeLength first last by_) start stop step
    pure (.range (first + s.start * by_) (first + s.stop * by_) (by_ * s.step))
  | .list a =>
    let items ← read fun m => m.items a
    let s ← readOr fun m => m.sliceOf items.size start stop step
    if s.step = -indexBound then throw .died else newList (s.pick items)
  | .tuple items =>
    let s ← readOr fun m => m.sliceOf items.length start stop step
    if s.step = -indexBound then throw .died else pure (.tuple (s.pick items.toArray))
  | .string text =>
    let cs := text.toList.toArray
    let s ← readOr fun m => m.sliceOf cs.size start stop step
    if s.step = -indexBound then throw .died else pure (.string (String.ofList (s.pick cs)))
  | d => fail (.unsupported "[::]" d.typeName)

end Eval

end Lookout.Script
