/-
How scripts write floats.

The power of ten of the leading digit is taken from the logarithm.  A float whose power has a
magnitude of six or more is written with an exponent and at most six places; the places are
those of the float divided by that power of ten, both in float arithmetic.
-/
import Lookout.Decimal.Fixed

namespace Lookout.Script

/-- The text of infinities and NaN. -/
def nonFiniteText (x : Float) : List Char :=
  if x.isNaN then ['n', 'a', 'n'] else if x < 0 then ['-', 'i', 'n', 'f'] else ['+', 'i', 'n', 'f']

/-- The power of ten of the leading digit, as the logarithm gives it. -/
def decimalPower (x : Float) : Int :=
  if x == 0 then 0 else x.abs.log10.floor.toInt64.toInt

/-- A number with a sign and at least two digits. -/
def signedPair (n : Int) : List Char :=
  let digits := digitsOf n.natAbs
  (if n < 0 then '-' else '+') :: List.replicate (2 - digits.length) '0' ++ digits

/-- The last six digits of a number, with zeros in front. -/
def sixDigits (n : Nat) : List Char :=
  let digits := digitsOf (n % 1000000)
  List.replicate (6 - digits.length) '0' ++ digits

/-- A finite float with an exponent; zeros at the end are left out if `strip` is set. -/
def scientificFloat (mark : Char) (strip : Bool) (x : Float) : List Char :=
  let power := decimalPower x
  let scaled := if x == 0 then 0 else x.abs / (10 : Float).pow (Float.ofInt power)
  let whole := scaled.floor
  let places := sixDigits ((scaled - whole) * 1000000).round.toUInt64.toNat
  let kept := if strip then (places.reverse.dropWhile (· = '0')).reverse else places
  (if hasSignBit x then ['-'] else []) ++ plainFloatText whole
    ++ (if kept.isEmpty then [] else '.' :: kept) ++ mark :: signedPair power

/-- The text of a float with an exponent and six places. -/
def exponentText (mark : Char) (x : Float) : List Char :=
  if x.isFinite then scientificFloat mark false x else nonFiniteText x

/-- The text of a float with six places. -/
def sixPlacesText (x : Float) : List Char :=
  if x.isFinite then Decimal.fixedText 6 x else nonFiniteText x

/-- The text of a float as scripts show it. -/
def compactText (mark : Char) (x : Float) : List Char :=
  if !x.isFinite then nonFiniteText x
  else if 6 ≤ (decimalPower x).natAbs then scientificFloat mark true x
  else if x.floor == x then Decimal.fixedText 1 x
  else plainFloatText x

end Lookout.Script
