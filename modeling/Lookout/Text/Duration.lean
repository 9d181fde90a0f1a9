/-
Lengths of time, in whole nanoseconds, and their text.

The text uses the largest unit that leaves a whole part: seconds, milliseconds,
microseconds or nanoseconds.  What remains is a decimal fraction without trailing zeros.
-/
import Lookout.Decimal.Layout

namespace Lookout

/-- A length of time. -/
structure Duration where
  nanoseconds : Nat
deriving DecidableEq, Repr

namespace Duration

/-- So many whole seconds. -/
def ofSeconds (n : Nat) : Duration :=
  ⟨n * 1000000000⟩

/-- So many whole milliseconds. -/
def ofMilliseconds (n : Nat) : Duration :=
  ⟨n * 1000000⟩

/-- The fraction `part / 10 ^ places`, behind a point and without trailing zeros; nothing
when it is zero. -/
def fractionText (part places : Nat) : List Char :=
  let digits := digitsOf part
  let padded := List.replicate (places - digits.length) '0' ++ digits
  let kept := (padded.reverse.dropWhile (· = '0')).reverse
  if kept.isEmpty then [] else '.' :: kept

/-- A quotient by a power of ten with its fraction. -/
def quotientText (n places : Nat) : List Char :=
  digitsOf (n / Nat.pow 10 places) ++ fractionText (n % Nat.pow 10 places) places

/-- The text of a duration, such as `1.5s` or `250ms`. -/
def text (d : Duration) : String :=
  let n := d.nanoseconds
  if 1000000000 ≤ n then String.ofList (quotientText n 9) ++ "s"
  else if 1000000 ≤ n then String.ofList (quotientText n 6) ++ "ms"
  else if 1000 ≤ n then String.ofList (quotientText n 3) ++ "µs"
  else toString n ++ "ns"

end Duration

end Lookout
