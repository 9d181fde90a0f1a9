/-
How the digits of a float are laid out.

The digits come from the shortest decimal that reads back; what is left to decide is where
positional text ends and how an exponent is written.  Those decisions are one record, so a
format that writes floats is a value of it.
-/
import Lookout.Decimal.Shortest

namespace Lookout

/-- The decimal digits of a natural number. -/
def digitsOf (n : Nat) : List Char :=
  Nat.toDigits 10 n

/-- The decimal text of an integer. -/
def integerText (n : Int) : List Char :=
  if n < 0 then '-' :: digitsOf n.natAbs else digitsOf n.natAbs

namespace Decimal

/-- The power of ten of the leading digit. -/
def leadingPower (d : Decimal) : Int :=
  ((digitsOf d.digits).length : Int) - 1 + d.exponent

/-- Positional text, with no point in it when the number is whole. -/
def positional (d : Decimal) : List Char :=
  let ds := digitsOf d.digits
  if 0 ≤ d.exponent then
    if d.digits = 0 then ['0'] else ds ++ List.replicate d.exponent.toNat '0'
  else
    let places := (-d.exponent).toNat
    if ds.length ≤ places then
      '0' :: '.' :: List.replicate (places - ds.length) '0' ++ ds
    else
      ds.take (ds.length - places) ++ '.' :: ds.drop (ds.length - places)

/-- Positional text that always shows a fraction. -/
def positionalWithFraction (d : Decimal) : List Char :=
  if 0 ≤ d.exponent then d.positional ++ ['.', '0'] else d.positional

/-- Scientific text: one digit, a fraction if there are more, and the exponent, whose plus
sign is written when `plus` is set. -/
def scientific (plus : Bool) (d : Decimal) : List Char :=
  let ds := digitsOf d.digits
  let fraction := ds.drop 1
  let mantissa := ds.take 1 ++ (if fraction.isEmpty then [] else '.' :: fraction)
  let power := d.leadingPower
  mantissa ++ 'e' :: (if plus && 0 ≤ power then ['+'] else []) ++ integerText power

end Decimal

/-- The layout of the text of a finite float. -/
structure FloatLayout where
  /-- Powers of the leading digit that are written positionally: from the first, below the
  second.  Without bounds every float is. -/
  positionalRange : Option (Int × Int)
  /-- Whether a positive exponent carries its sign. -/
  plusSign : Bool
deriving Repr

/-- The text of a finite float under a layout; it always holds a point or an exponent. -/
def FloatLayout.text (l : FloatLayout) (x : Float) : List Char :=
  let d := Decimal.ofFloat x
  let positional :=
    match l.positionalRange with
    | none => true
    | some (low, high) => d.digits = 0 || (low ≤ d.leadingPower && d.leadingPower < high)
  let body := if positional then d.positionalWithFraction else d.scientific l.plusSign
  if hasSignBit x then '-' :: body else body

/-- Floats in JSON text and in messages about JSON: positional from `10 ^ -5` to below
`10 ^ 16`, otherwise with a signed exponent. -/
def jsonFloat : FloatLayout := ⟨some (-5, 16), true⟩

/-- Floats in messages about documents: always positional, with at least one place. -/
def documentFloat : FloatLayout := ⟨none, false⟩

/-- A float in positional notation, with no point if it is whole. -/
def plainFloatText (x : Float) : List Char :=
  if x.isNaN then ['N', 'a', 'N']
  else if x.isInf then (if x < 0 then ['-', 'i', 'n', 'f'] else ['i', 'n', 'f'])
  else (if hasSignBit x then ['-'] else []) ++ (Decimal.ofFloat x).positional

/-- A float in a message about a document; infinities and NaN are words. -/
def documentFloatText (x : Float) : List Char :=
  if x.isFinite then documentFloat.text x else plainFloatText x

end Lookout
