/-
Operators.

Integers are exact.  A left shift of one number of 32 bits by another below 32 keeps 32 bits.
An operation with a float on either side is one on floats.  Where a datum takes no part in an
operation the fault names both types, the left one first.
-/
import Lookout.Script.Items
import Lookout.Decimal.Read

namespace Lookout.Script

/-! ### Truth -/

/-- The truth of a datum: nothing, zero and whatever is empty is false. -/
def Machine.truth (m : Machine) : Datum → Bool
  | .none => false
  | .bool b => b
  | .int n => n != 0
  | .float x => !(x == 0)
  | .string s => !s.isEmpty
  | .tuple items => !items.isEmpty
  | .range start stop step => rangeLength start stop step != 0
  | .list a => !(m.items a).isEmpty
  | .dict a => !(m.entries a).isEmpty
  | _ => true

/-- The truth of a datum. -/
def Eval.truth (d : Datum) : Eval Bool :=
  Eval.read fun m => m.truth d

/-! ### Numbers -/

/-- `m` times a power of two as a float, where it is one. -/
def floatOfParts (m : Nat) (e : Int) : Float :=
  Float.scaleB (Float.ofNat m) e

/-- The remainder of two finite floats, with the sign of the first; the second is not zero.
Both are multiples of one power of two, so the remainder is one of integers. -/
def floatRemainder (x y : Float) : Float :=
  if y.isInf then x
  else
    let a := Magnitude.ofBits x.toBits.toNat
    let b := Magnitude.ofBits y.toBits.toNat
    let e := min a.exponent b.exponent
    let r := Magnitude.scaledUp a.significand (a.exponent - e) 0
      % Magnitude.scaledUp b.significand (b.exponent - e) 0
    let magnitude := floatOfParts r e
    if hasSignBit x then -magnitude else magnitude

/-- The remainder of two floats with the sign of the second, which is not zero. -/
def floatModulo (x y : Float) : Float :=
  if x.isNaN || y.isNaN || x.isInf then 0 / 0
  else
    let r := floatRemainder x y
    if r == 0 then 0
    else if hasSignBit y != hasSignBit r then r + y
    else r

namespace Num

/-- The datum of a number. -/
def toDatum : Num → Datum
  | int n => .int n
  | float x => .float x

/-- The text of a number in a fault of a division. -/
def faultText : Num → String
  | int n => intText n
  | float x => String.ofList (plainFloatText x)

/-- An operation on two numbers: exact if both are integers. -/
def combine (onInts : Int → Int → Int) (onFloats : Float → Float → Float) (a b : Num) : Num :=
  match a, b with
  | int m, int n => .int (onInts m n)
  | a, b => .float (onFloats a.toFloat b.toFloat)

/-- The quotient, always a float. -/
def div (a b : Num) : Except Fault Num :=
  if b.toFloat == 0 then .error (.floatDivisionByZero a.faultText b.faultText)
  else .ok (.float (a.toFloat / b.toFloat))

/-- The quotient rounded down. -/
def floorDiv (a b : Num) : Except Fault Num :=
  match a, b with
  | int m, int n =>
    if n = 0 then .error (.floorDivisionByZero m) else .ok (.int (Int.fdiv m n))
  | a, b =>
    if b.toFloat == 0 then .error .divideByZero
    else .ok (.float (a.toFloat / b.toFloat).floor)

/-- The remainder with the sign of the divisor. -/
def modulo (a b : Num) : Except Fault Num :=
  match a, b with
  | int m, int n =>
    if n = 0 then .error (.moduloByZero m) else .ok (.int (Int.fmod m n))
  | a, b =>
    if b.toFloat == 0 then .error .divideByZero
    else .ok (.float (floatModulo a.toFloat b.toFloat))

end Num

/-- A bitwise operation of integers, digit by digit of the two's complement. -/
def bitwise (op : Nat → Nat → Nat) (onSigns : Bool → Bool → Bool) (m n : Int) : Int :=
  let width := max m.natAbs.log2 n.natAbs.log2 + 2
  let modulus : Nat := Nat.pow 2 width
  let bits := op (m % modulus).toNat (n % modulus).toNat % modulus
  if onSigns (m < 0) (n < 0) then (bits : Int) - modulus else bits

/-- The greatest distance of a left shift. -/
def shiftBound : Int := 100000

/-- An integer shifted to the left. -/
def shiftLeft (m n : Int) : Except Fault Int :=
  if n < 0 then .error .negativeLeftShift
  else if isIndex m && n < 32 then .ok (Int.bmod (m * Nat.pow 2 n.toNat) 0x100000000)
  else if m = 0 then .ok 0
  else if shiftBound < n then .error .leftShiftOverflow
  else .ok (m * Nat.pow 2 n.toNat)

/-- An integer shifted to the right. -/
def shiftRight (m n : Int) : Except Fault Int :=
  if n < 0 then .error .negativeRightShift
  else if shiftBound < n then .ok (if m < 0 then -1 else 0)
  else .ok (Int.fdiv m (Nat.pow 2 n.toNat))

/-! ### Unary operators -/

/-- How a unary operator is written. -/
def UnaryOp.text : UnaryOp → String
  | .plus => "+"
  | .minus => "-"
  | .invert => "~"

/-- A unary operator applied. -/
def applyUnary (op : UnaryOp) (d : Datum) : Except Fault Datum :=
  match op, d with
  | .plus, .int n => .ok (.int n)
  | .plus, .float x => .ok (.float x)
  | .minus, .int n => .ok (.int (-n))
  | .minus, .float x => .ok (.float (-x))
  | .invert, .int n => .ok (.int (-n - 1))
  | op, d => .error (.unsupported op.text d.typeName)

/-! ### Binary operators -/

/-- How a binary operator is written. -/
def BinaryOp.text : BinaryOp → String
  | .equal => "=="
  | .notEqual => "!="
  | .less => "<"
  | .greater => ">"
  | .atMost => "<="
  | .atLeast => ">="
  | .isIn => "in"
  | .notIn => "in"
  | .add => "+"
  | .sub => "-"
  | .mul => "*"
  | .div => "/"
  | .floorDiv => "//"
  | .percent => "%"
  | .bitAnd => "&"
  | .bitOr => "|"
  | .bitXor => "^"
  | .shiftLeft => "<<"
  | .shiftRight => ">>"

/-- The fault of an operator whose operands it does not take. -/
def refused {α : Type} (op : BinaryOp) (a b : Datum) : Except Fault α :=
  .error (.unsupportedPair op.text a.typeName b.typeName)

/-- An operator on numbers; other operands are refused. -/
def onNumbers (op : BinaryOp) (f : Num → Num → Except Fault Num) (a b : Datum) :
    Except Fault Datum :=
  match Num.ofDatum? a, Num.ofDatum? b with
  | some x, some y => (f x y).map Num.toDatum
  | _, _ => refused op a b

/-- An operator on integers; other operands are refused. -/
def onInts (op : BinaryOp) (f : Int → Int → Except Fault Int) : Datum → Datum → Except Fault Datum
  | .int m, .int n => (f m n).map .int
  | a, b => refused op a b

/-- How often something repeated by a number occurs. -/
def repetitions (n : Int) : Nat :=
  n.toNat

/-- Items repeated. -/
def repeated {α : Type} (n : Int) (items : List α) : List α :=
  (List.replicate (repetitions n) items).flatten

/-- Entries with those of another dictionary entered. -/
def Machine.entered (m : Machine) (entries : List (Datum × Datum)) :
    List (Datum × Datum) → Except Fault (List (Datum × Datum))
  | [] => .ok entries
  | (key, value) :: rest => do
    let place ← findPlace (m.equal key) 0 entries
    m.entered (enterAt place key value entries) rest

/-- Whether a check finds one of some items. -/
def anyEqual {α : Type} (check : α → Except Fault Bool) : List α → Except Fault Bool
  | [] => .ok false
  | x :: xs => do
    if ← check x then .ok true else anyEqual check xs

/-- Whether a part occurs in a text. -/
def occursIn (part : List Char) : List Char → Bool
  | [] => part.isEmpty
  | c :: cs => part.isPrefixOf (c :: cs) || occursIn part cs

/-- The integer that a number is, if it is whole. -/
def Num.whole? : Num → Option Int
  | .int n => some n
  | .float x =>
    if x.isFinite && x.floor == x && x.abs < 1e18 then some x.toInt64.toInt else none

/-- Whether a number is in a range. -/
def inRange (start stop step n : Int) : Bool :=
  (n - start) % step == 0 && 0 ≤ (n - start) / step
    && (n - start) / step < rangeLength start stop step

/-- Whether a datum is in another one. -/
def Machine.contains (m : Machine) (item whole : Datum) : Except Fault Bool :=
  match whole with
  | .list a => anyEqual (m.equal item) (m.items a).toList
  | .tuple items => anyEqual (m.equal item) items
  | .dict a => (m.lookup a item).map (·.isSome)
  | .range start stop step =>
    match (Num.ofDatum? item).bind Num.whole? with
    | some n => .ok (inRange start stop step n)
    | none => .ok false
  | .string s =>
    match item with
    | .string part => .ok (occursIn part.toList s.toList)
    | d => .error (.wrongOperandType "str" d.typeName (m.shown d))
  | d => refused .isIn item d

/-- Whether an order is the one that a comparison asks for. -/
def BinaryOp.accepts : BinaryOp → Ordering → Bool
  | .less, o => o == .lt
  | .greater, o => o == .gt
  | .atMost, o => o != .gt
  | .atLeast, o => o != .lt
  | _, _ => false

namespace Eval

/-- A sum. -/
def add (a b : Datum) : Eval Datum :=
  match a, b with
  | .string s, .string t => pure (.string (s ++ t))
  | .tuple xs, .tuple ys => pure (.tuple (xs ++ ys))
  | .list x, .list y => do
    let xs ← read fun m => (m.items x).toList
    let ys ← read fun m => (m.items y).toList
    newList (xs ++ ys)
  | a, b =>
    ofExcept (onNumbers .add (fun x y => .ok (Num.combine (· + ·) (· + ·) x y)) a b)

/-- A sequence repeated, if it is one. -/
def repeated? (d : Datum) (n : Int) : Option (Eval Datum) :=
  match d with
  | .string s => some (pure (.string (String.ofList (repeated n s.toList))))
  | .tuple items => some (pure (.tuple (repeated n items)))
  | .list a => some do
    let items ← read fun m => (m.items a).toList
    newList (repeated n items)
  | _ => none

/-- A product: of numbers, or of a sequence and a number on either side. -/
def mul (a b : Datum) : Eval Datum :=
  let numbers :=
    ofExcept (onNumbers .mul (fun x y => .ok (Num.combine (· * ·) (· * ·) x y)) a b)
  match a, b with
  | d, .int n => (repeated? d n).getD numbers
  | .int n, d => (repeated? d n).getD numbers
  | _, _ => numbers

/-- The union of two dictionaries, or of the bits of two integers. -/
def bitOr (a b : Datum) : Eval Datum :=
  match a, b with
  | .dict x, .dict y => do
    let entries ← readOr fun m => m.entered (m.entries x) (m.entries y)
    newDict entries
  | a, b => ofExcept (onInts .bitOr (fun m n => .ok (bitwise (· ||| ·) (· || ·) m n)) a b)

/-- A binary operator applied; `format` writes a text from a pattern. -/
def applyBinary (format : String → Datum → Eval Datum) (op : BinaryOp) (a b : Datum) :
    Eval Datum :=
  match op with
  | .equal => do
    let same ← equal a b
    pure (.bool same)
  | .notEqual => do
    let same ← equal a b
    pure (.bool !same)
  | .isIn => do
    let found ← readOr fun m => m.contains a b
    pure (.bool found)
  | .notIn => do
    let found ← readOr fun m => m.contains a b
    pure (.bool !found)
  | .add => add a b
  | .sub =>
    ofExcept (onNumbers .sub (fun x y => .ok (Num.combine (· - ·) (· - ·) x y)) a b)
  | .mul => mul a b
  | .div => ofExcept (onNumbers .div Num.div a b)
  | .floorDiv => ofExcept (onNumbers .floorDiv Num.floorDiv a b)
  | .percent =>
    match a with
    | .string pattern => format pattern b
    | a => ofExcept (onNumbers .percent Num.modulo a b)
  | .bitAnd => ofExcept (onInts .bitAnd (fun m n => .ok (bitwise (· &&& ·) (· && ·) m n)) a b)
  | .bitOr => bitOr a b
  | .bitXor => ofExcept (onInts .bitXor (fun m n => .ok (bitwise (· ^^^ ·) (· != ·) m n)) a b)
  | .shiftLeft => ofExcept (onInts .shiftLeft shiftLeft a b)
  | .shiftRight => ofExcept (onInts .shiftRight shiftRight a b)
  | op => do
    let order ← compare a b
    pure (.bool (op.accepts order))

/-- Adds the items of a datum to a list, in place. -/
def extendList (a : Addr) (source : Datum) : Eval Unit := do
  checkMutable a
  let items ← itemsOf source
  changeItems a fun old => old ++ items.toArray

/-- An operator applied by an assignment: a list grows in place, and so does a dictionary. -/
def applyAugmented (format : String → Datum → Eval Datum) (op : BinaryOp) (a b : Datum) :
    Eval Datum :=
  match op, a with
  | .add, .list x => do
    extendList x b
    pure a
  | .bitOr, .dict x => do
    checkMutable x
    match b with
    | .dict y =>
      let entries ← readOr fun m => m.entered (m.entries x) (m.entries y)
      changeEntries x fun _ => entries
      pure a
    | b => fail (.unsupportedPair "|=" a.typeName b.typeName)
  | op, a => applyBinary format op a b

end Eval

end Lookout.Script
