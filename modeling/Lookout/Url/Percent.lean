/-
Percent encoding: bytes of text written as a percent sign and two hexadecimal digits.

Which characters are encoded depends on the part of the address; controls and all characters
outside ASCII always are.
-/
import Lookout.Text.Digit
import Lookout.Text.Utf8

namespace Lookout

namespace Percent

/-- Whether a character is encoded in every part. -/
def isControl (c : Char) : Bool :=
  c.toNat < 0x20 || 0x7F ≤ c.toNat

/-- Whether a character is encoded in a fragment. -/
def inFragment (c : Char) : Bool :=
  isControl c || " \"<>`".toList.contains c

/-- Whether a character is encoded in a query; an address of a known scheme encodes the
apostrophe as well. -/
def inQuery (known : Bool) (c : Char) : Bool :=
  isControl c || " \"#<>".toList.contains c || (known && c = '\'')

/-- Whether a character is encoded in a path. -/
def inPath (c : Char) : Bool :=
  inFragment c || "#?\x7b\x7d".toList.contains c

/-- Whether a character is encoded in a user name or password. -/
def inUserInfo (c : Char) : Bool :=
  inPath c || "/:;=@[\\]^|".toList.contains c

/-- One encoded byte. -/
def encodeByte (n : Nat) : List Char :=
  ['%', (Nat.digitChar (n / 16)).toUpper, (Nat.digitChar (n % 16)).toUpper]

/-- Text with some of its characters encoded. -/
def encode (isEncoded : Char → Bool) (cs : List Char) : List Char :=
  cs.flatMap fun c => if isEncoded c then (utf8Bytes c).flatMap encodeByte else [c]

/-- The bytes of text with its encoded bytes decoded. -/
def decode : List Char → List Nat
  | [] => []
  | '%' :: a :: b :: cs =>
    match hexValue? a, hexValue? b with
    | some m, some n => (16 * m + n) :: decode cs
    | _, _ => 37 :: decode (a :: b :: cs)
  | c :: cs => utf8Bytes c ++ decode cs

end Percent

end Lookout
