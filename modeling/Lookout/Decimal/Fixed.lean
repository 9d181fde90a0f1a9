/-
Floats with a fixed number of decimal places.

The float is taken exactly and rounded to the nearest multiple of the last place; a value
half way between two goes to the even one.
-/
import Lookout.Decimal.Layout

namespace Lookout

namespace Decimal

/-- The natural number nearest to a quotient; half way between two, the even one. -/
def roundQuotient (num den : Nat) : Nat :=
  let q := num / den
  let twice := 2 * (num % den)
  if twice < den then q
  else if den < twice then q + 1
  else if q % 2 = 0 then q else q + 1

/-- The magnitude of a float in units of `10 ^ -places`, rounded. -/
def roundedUnits (places : Nat) (m : Magnitude) : Nat :=
  roundQuotient (Magnitude.scaledUp m.significand m.exponent places)
    (Magnitude.scaledUp 1 (-m.exponent) 0)

/-- The text of a finite float with so many places. -/
def fixedText (places : Nat) (x : Float) : List Char :=
  let digits := digitsOf (roundedUnits places (Magnitude.ofBits x.toBits.toNat))
  let padded := List.replicate (places + 1 - digits.length) '0' ++ digits
  let split := padded.length - places
  let body := padded.take split ++ (if places = 0 then [] else '.' :: padded.drop split)
  if hasSignBit x then '-' :: body else body

end Decimal

end Lookout
