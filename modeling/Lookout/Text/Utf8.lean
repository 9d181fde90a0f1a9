/-
Bytes as text.

Decoding is by the standard encoding form.  Where bytes are not valid, each longest run that
starts a character but does not finish it counts as one invalid part; a lenient reader puts
a replacement character in its place, a strict one refuses the whole.
-/

namespace Lookout

namespace Utf8

/-- The range of the byte after a lead byte, and how many bytes follow that one. -/
def secondByte? (lead : Nat) : Option (Nat × Nat × Nat) :=
  if 0xC2 ≤ lead && lead ≤ 0xDF then some (0x80, 0xBF, 0)
  else if lead = 0xE0 then some (0xA0, 0xBF, 1)
  else if lead = 0xED then some (0x80, 0x9F, 1)
  else if 0xE1 ≤ lead && lead ≤ 0xEF then some (0x80, 0xBF, 1)
  else if lead = 0xF0 then some (0x90, 0xBF, 2)
  else if 0xF1 ≤ lead && lead ≤ 0xF3 then some (0x80, 0xBF, 2)
  else if lead = 0xF4 then some (0x80, 0x8F, 2)
  else none

/-- Continuation bytes taken one by one onto a partial code point. -/
def continueWith (partialCode : Nat) : Nat → List Nat → Option Nat × List Nat
  | 0, bytes => (some partialCode, bytes)
  | _ + 1, [] => (none, [])
  | count + 1, b :: bytes =>
    if 0x80 ≤ b && b ≤ 0xBF then continueWith (partialCode * 64 + b % 64) count bytes
    else (none, b :: bytes)

/-- The first character, or nothing for an invalid part, and the bytes behind it. -/
def next (lead : Nat) (bytes : List Nat) : Option Char × List Nat :=
  if lead < 0x80 then (some (Char.ofNat lead), bytes)
  else
    match secondByte? lead, bytes with
    | some (low, high, more), b :: rest =>
      if low ≤ b && b ≤ high then
        let start := lead % (if more = 0 then 32 else if more = 1 then 16 else 8)
        let (code, rest) := continueWith (start * 64 + b % 64) more rest
        (code.map Char.ofNat, rest)
      else (none, b :: rest)
    | _, bytes => (none, bytes)

/-- All characters, with nothing for each invalid part; each step takes a byte of the fuel. -/
def parts : Nat → List Nat → List (Option Char)
  | 0, _ => []
  | _, [] => []
  | fuel + 1, lead :: bytes =>
    let (c, rest) := next lead bytes
    c :: parts fuel rest

end Utf8

/-- The text of bytes, with U+FFFD for each invalid part. -/
def decodeLossy (bytes : List Nat) : String :=
  String.ofList ((Utf8.parts bytes.length bytes).map fun c => c.getD '\ufffd')

/-- The bytes of a character. -/
def utf8Bytes (c : Char) : List Nat :=
  let n := c.toNat
  if n < 0x80 then [n]
  else if n < 0x800 then [0xC0 + n / 64, 0x80 + n % 64]
  else if n < 0x10000 then [0xE0 + n / 4096, 0x80 + n / 64 % 64, 0x80 + n % 64]
  else [0xF0 + n / 262144, 0x80 + n / 4096 % 64, 0x80 + n / 64 % 64, 0x80 + n % 64]

/-- The text of bytes, if all of them are valid. -/
def decodeUtf8? (bytes : List Nat) : Option String :=
  ((Utf8.parts bytes.length bytes).mapM id).map String.ofList

end Lookout
