/-
The fewest decimal digits that identify a binary float.

A finite float stands for every real that rounds to it: an interval that reaches half way
to each neighbour and holds its ends exactly when the significand is even.  Of all decimals
in the interval the shortest are wanted, and of those the nearest to the float.  If a point
of a decimal grid lies in the interval, so does one of the two grid points around the float
itself, so it is enough to test those two on the grid of one digit, of two digits, and so on.
All comparisons are between natural numbers.
-/

namespace Lookout

/-- The number `digits · 10 ^ exponent`. -/
structure Decimal where
  digits : Nat
  exponent : Int
deriving Repr

/-- The magnitude `significand · 2 ^ exponent` of a finite float. -/
structure Magnitude where
  significand : Nat
  exponent : Int
  /-- The gap to the float below is half the gap to the float above. -/
  narrowBelow : Bool
deriving Repr

namespace Magnitude

/-- The magnitude written in the bits of a finite double. -/
def ofBits (bits : Nat) : Magnitude :=
  let fraction := bits % 0x10000000000000
  let biased : Nat := bits / 0x10000000000000 % 0x800
  if biased = 0 then ⟨fraction, -1074, false⟩
  else ⟨0x10000000000000 + fraction, (biased : Int) - 1075, fraction = 0 && 1 < biased⟩

/-- `n · 2 ^ p · 10 ^ e`, where a power with a negative exponent counts as one. -/
def scaledUp (n : Nat) (p e : Int) : Nat :=
  n * Nat.pow 2 p.toNat * Nat.pow 10 e.toNat

/-- `a · 2 ^ p ≤ d · 10 ^ e`, decided on naturals. -/
def binaryLe (a : Nat) (p : Int) (d : Nat) (e : Int) : Bool :=
  scaledUp a p (-e) ≤ scaledUp d (-p) e

/-- `d · 10 ^ e ≤ a · 2 ^ p`, decided on naturals. -/
def decimalLe (d : Nat) (e : Int) (a : Nat) (p : Int) : Bool :=
  scaledUp d (-p) e ≤ scaledUp a p (-e)

/-- Whether a decimal rounds to the magnitude: the ends of the interval are counted in
quarters of the unit in the last place, and belong to it when the significand is even. -/
def readsBack (m : Magnitude) (d : Decimal) : Bool :=
  let high := 4 * m.significand + 2
  let low := 4 * m.significand - (if m.narrowBelow then 1 else 2)
  let p := m.exponent - 2
  if m.significand % 2 = 0 then
    binaryLe low p d.digits d.exponent && decimalLe d.digits d.exponent high p
  else
    !decimalLe d.digits d.exponent low p && !binaryLe high p d.digits d.exponent

/-- The greatest multiple of `10 ^ e` that is not above the magnitude, over `10 ^ e`. -/
def floorOn (m : Magnitude) (e : Int) : Nat :=
  scaledUp m.significand m.exponent (-e) / scaledUp 1 (-m.exponent) e

/-- An estimate of the number of digits before the point, one or two too small. -/
def scaleEstimate (m : Magnitude) : Int :=
  ((m.significand.log2 : Int) + m.exponent) * 30103 / 100000 - 1

/-- The least `k`, near the estimate, for which the magnitude is below `10 ^ k`. -/
def scale (m : Magnitude) : Int :=
  let below (k : Int) : Bool := !decimalLe 1 k m.significand m.exponent
  let start := m.scaleEstimate
  if below start then start
  else if below (start + 1) then start + 1
  else if below (start + 2) then start + 2
  else start + 3

/-- Which of two neighbours on a decimal grid is nearer to the magnitude; an exact tie goes
to the even one. -/
def nearer (m : Magnitude) (low : Decimal) : Decimal :=
  let high : Decimal := ⟨low.digits + 1, low.exponent⟩
  let middle := 2 * low.digits + 1
  let atMost := binaryLe (2 * m.significand) m.exponent middle low.exponent
  let atLeast := decimalLe middle low.exponent (2 * m.significand) m.exponent
  if atMost && atLeast then (if low.digits % 2 = 0 then low else high)
  else if atMost then low else high

/-- The answer on the grid of `count` digits, if a grid point there reads back. -/
def onGrid (m : Magnitude) (count : Nat) : Option Decimal :=
  let e := m.scale - count
  let low : Decimal := ⟨m.floorOn e, e⟩
  let high : Decimal := ⟨low.digits + 1, e⟩
  match m.readsBack low, m.readsBack high with
  | true, true => some (m.nearer low)
  | true, false => some low
  | false, true => some high
  | false, false => none

end Magnitude

namespace Decimal

/-- The same number with no trailing zero among its digits; `fuel` bounds the zeros removed. -/
def stripZeros : Nat → Decimal → Decimal
  | 0, d => d
  | fuel + 1, d =>
    if d.digits ≠ 0 && d.digits % 10 = 0 then stripZeros fuel ⟨d.digits / 10, d.exponent + 1⟩
    else d

/-- The shortest decimal that reads back to a magnitude.  Seventeen digits always suffice. -/
def shortest (m : Magnitude) : Decimal :=
  if m.significand = 0 then ⟨0, 0⟩
  else
    match (List.range 17).findSome? fun n => m.onGrid (n + 1) with
    | some d => stripZeros 20 d
    | none => ⟨m.floorOn (m.scale - 17), m.scale - 17⟩

end Decimal

/-- The fewest digits that read back to a finite float, its sign left aside. -/
def Decimal.ofFloat (x : Float) : Decimal :=
  Decimal.shortest (Magnitude.ofBits x.toBits.toNat)

/-- Whether the sign bit of a float is set. -/
def hasSignBit (x : Float) : Bool :=
  0x8000000000000000 ≤ x.toBits.toNat

end Lookout
