/-
Numbers as search results carry them: an integer of 64 bits, signed or unsigned, or a
finite float.  The two kinds stay apart: an integer is never equal to a float.
-/
import Lookout.Decimal.Layout

namespace Lookout

/-- Whether an integer fits in 64 bits, signed or unsigned. -/
abbrev FitsWord (n : Int) : Prop :=
  -0x8000000000000000 ≤ n ∧ n < 0x10000000000000000

/-- A number: an integer that fits a word, or a float that is neither infinite nor NaN. -/
inductive Number where
  | int (n : Int) (fits : FitsWord n)
  | float (x : Float) (finite : x.isFinite = true)

namespace Number

/-- The integer as a number, if it fits a word. -/
def ofInt? (n : Int) : Option Number :=
  if h : FitsWord n then some (.int n h) else none

/-- The float as a number, if it is finite. -/
def ofFloat? (x : Float) : Option Number :=
  if h : x.isFinite = true then some (.float x h) else none

/-- Equality of numbers of one kind; zero equals minus zero among floats. -/
def beq : Number → Number → Bool
  | .int m _, .int n _ => m == n
  | .float x _, .float y _ => x == y
  | _, _ => false

instance : BEq Number := ⟨beq⟩

instance : Inhabited Number := ⟨.int 0 (by decide)⟩

/-- The number as a float, rounded to the nearest one. -/
def toFloat : Number → Float
  | .int n _ => Float.ofInt n
  | .float x _ => x

/-- The number as a signed 64-bit integer, if it is one. -/
def toSigned? : Number → Option Int
  | .int n _ => if n < 0x8000000000000000 then some n else none
  | .float _ _ => none

/-- Whether the number is zero, of whatever kind and sign. -/
def isZero (n : Number) : Bool :=
  n.toFloat == 0

/-- The text of a number: the digits of an integer, the shortest text of a float. -/
def text : Number → List Char
  | .int n _ => integerText n
  | .float x _ => jsonFloat.text x

end Number

end Lookout
