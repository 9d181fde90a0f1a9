/-
Bytes in base 64: each three of them as four letters, digits or signs.
-/

namespace Lookout

namespace Base64

/-- The sign of a value below 64. -/
def sign (n : Nat) : Char :=
  if n < 26 then Char.ofNat (65 + n)
  else if n < 52 then Char.ofNat (71 + n)
  else if n < 62 then Char.ofNat (n - 4)
  else if n = 62 then '+'
  else '/'

/-- Bytes in base 64, with equal signs for what is missing in the end. -/
def encode : List Nat → List Char
  | [] => []
  | [a] => [sign (a / 4), sign (a % 4 * 16), '=', '=']
  | [a, b] => [sign (a / 4), sign (a % 4 * 16 + b / 16), sign (b % 16 * 4), '=']
  | a :: b :: c :: rest =>
    sign (a / 4) :: sign (a % 4 * 16 + b / 16) :: sign (b % 16 * 4 + c / 64) :: sign (c % 64)
      :: encode rest

end Base64

end Lookout
