/-
Self-describing data as a format hands it over, and the value it stands for.

A token says what kind of data came and, for integers, how wide it was.  Tags are dropped,
keys of any kind become text, and of entries with one key the last one counts.  An integer
of 128 bits is kept as a number only if it fits 64 signed bits (or unsigned ones, for an
unsigned integer); otherwise its decimal digits are kept as text.
-/
import Lookout.Json.Text
import Lookout.Text.Utf8

namespace Lookout

/-- A piece of self-describing data. -/
inductive Token where
  | unit
  | bool (b : Bool)
  /-- An integer of at most 64 bits, signed or unsigned. -/
  | word (n : Int)
  /-- A signed integer of 128 bits. -/
  | signedWide (n : Int)
  /-- An unsigned integer of 128 bits. -/
  | unsignedWide (n : Nat)
  | float (x : Float)
  | string (s : String)
  | bytes (bs : List Nat)
  /-- A wrapper that stands for what it holds. -/
  | wrapped (content : Token)
  | list (items : List Token)
  | map (pairs : List (Token × Token))
  /-- A tag on data. -/
  | tagged (content : Token)
  /-- A tag without data. -/
  | bareTag

instance : Inhabited Token := ⟨.unit⟩

namespace Value

/-- The text of a value used as a map key: a string as it is, anything else as shown. -/
def keyText : Value → String
  | string s => s
  | v => v.display

/-- A signed wide integer: a number if it fits 64 signed bits, else its digits. -/
def ofSignedWide (n : Int) : Value :=
  if -0x8000000000000000 ≤ n && n < 0x8000000000000000 then ofInt n
  else string (String.ofList (integerText n))

/-- An unsigned wide integer: a number if it fits 64 bits, else its digits. -/
def ofUnsignedWide (n : Nat) : Value :=
  if n < 0x10000000000000000 then ofInt n else string (String.ofList (digitsOf n))

mutual

/-- The value of a token; nothing if a tag without data occurs in it. -/
def ofToken? : Token → Option Value
  | .unit => some null
  | .bool b => some (bool b)
  | .word n => some (ofInt n)
  | .signedWide n => some (ofSignedWide n)
  | .unsignedWide n => some (ofUnsignedWide n)
  | .float x => some (ofFloat x)
  | .string s => some (string s)
  | .bytes bs => some (string (decodeLossy bs))
  | .wrapped content => ofToken? content
  | .list items => (ofTokens? items).map list
  | .map pairs => (ofTokenPairs? [] pairs).map map
  | .tagged content => ofToken? content
  | .bareTag => none

/-- The values of tokens, in order. -/
def ofTokens? : List Token → Option (List Value)
  | [] => some []
  | t :: ts => do
    let v ← ofToken? t
    let vs ← ofTokens? ts
    pure (v :: vs)

/-- The entries of a map, entered one after the other. -/
def ofTokenPairs? (entries : List (String × Value)) :
    List (Token × Token) → Option (List (String × Value))
  | [] => some entries
  | (k, t) :: pairs => do
    let key ← ofToken? k
    let value ← ofToken? t
    ofTokenPairs? (Entries.insert key.keyText value entries) pairs

end

end Value

end Lookout
