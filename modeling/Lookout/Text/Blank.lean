/-
White space, and trimming by it.

The set is the property `White_Space` of the Unicode standard.  Trimming removes a longest
run of a given kind of character from either end; it is stated on character lists so that
its laws are list laws.
-/
import Lookout.Text.CodeSet

namespace Lookout

/-- The characters with the property `White_Space`. -/
def whiteSpace : CodeSet := ⟨[
  9, 14, 32, 33, 133, 134, 160, 161, 5760, 5761, 8192, 8203, 8232, 8234, 8239, 8240, 8287, 8288,
  12288, 12289]⟩

/-- Whether a character is white space. -/
def isBlank (c : Char) : Bool :=
  whiteSpace.contains c

namespace Text

/-- The characters left when a longest prefix of characters satisfying `p` is removed. -/
def trimStart (p : Char → Bool) (cs : List Char) : List Char :=
  cs.dropWhile p

/-- The characters left when a longest suffix of characters satisfying `p` is removed. -/
def trimEnd (p : Char → Bool) (cs : List Char) : List Char :=
  (cs.reverse.dropWhile p).reverse

/-- The characters left when both ends are stripped of characters satisfying `p`. -/
def trim (p : Char → Bool) (cs : List Char) : List Char :=
  trimEnd p (trimStart p cs)

/-- A string without the white space around it. -/
def stripBlanks (s : String) : String :=
  String.ofList (trim isBlank s.toList)

/-- Whether a string holds nothing but white space. -/
def isAllBlank (s : String) : Bool :=
  s.toList.all isBlank

end Text

end Lookout
