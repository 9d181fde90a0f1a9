/-
Reading floats from decimal text.

The text is an optional sign, digits with an optional point somewhere among them, and an
optional exponent; the words for infinity and NaN are read in any case.  The result is the
float nearest to the decimal.
-/
import Lookout.Decimal.Layout

namespace Lookout

namespace Decimal

/-- The float nearest to `digits · 10 ^ exponent`.  Far outside the range of floats the
answer is settled by the power of the leading digit alone. -/
def toFloat (d : Decimal) : Float :=
  if d.digits = 0 then 0
  else if 400 < d.leadingPower then 1 / 0
  else if d.leadingPower < -400 then 0
  else Float.ofScientific d.digits (d.exponent < 0) d.exponent.natAbs

/-- The value of an exponent part: `e`, an optional sign, and digits to the end. -/
def exponent? : List Char → Option Int
  | [] => some 0
  | c :: cs =>
    if c = 'e' || c = 'E' then
      let (negative, ds) := match cs with
        | '-' :: r => (true, r)
        | '+' :: r => (false, r)
        | r => (false, r)
      if !ds.isEmpty && ds.all Char.isDigit then
        let n : Int := Nat.ofDigitChars 10 ds 0
        some (if negative then -n else n)
      else none
    else none

/-- The magnitude of a decimal text without its sign. -/
def magnitude? (cs : List Char) : Option Decimal :=
  let whole := cs.takeWhile Char.isDigit
  let rest := cs.dropWhile Char.isDigit
  let (fraction, rest) := match rest with
    | '.' :: r => (r.takeWhile Char.isDigit, r.dropWhile Char.isDigit)
    | r => ([], r)
  if whole.isEmpty && fraction.isEmpty then none
  else (exponent? rest).map fun e =>
    ⟨Nat.ofDigitChars 10 (whole ++ fraction) 0, e - fraction.length⟩

/-- The float of a text without its sign. -/
def unsignedFloat? (cs : List Char) : Option Float :=
  let word := String.ofList (cs.map Char.toLower)
  if word = "inf" || word = "infinity" then some (1 / 0)
  else if word = "nan" then some (0 / 0)
  else (magnitude? cs).map toFloat

/-- The float that a text writes. -/
def readFloat? (cs : List Char) : Option Float :=
  match cs with
  | '-' :: rest => (unsignedFloat? rest).map (-·)
  | '+' :: rest => unsignedFloat? rest
  | _ => unsignedFloat? cs

end Decimal

end Lookout
