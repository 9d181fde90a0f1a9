/-
Tokens: the words that request methods and header names are made of.
-/
import Lookout.Text.CodeSet

namespace Lookout

/-- The signs that may stand in a token besides letters and digits. -/
def tokenSigns : List Char :=
  ['!', '#', '$', '%', '&', '\'', '*', '+', '-', '.', '^', '_', '`', '|', '~']

/-- Whether a character may stand in a token. -/
def isTokenChar (c : Char) : Bool :=
  c.isAlphanum || tokenSigns.contains c

/-- Whether a text is a token: not empty, and token characters only. -/
def isToken (s : String) : Bool :=
  !s.isEmpty && s.toList.all isTokenChar

end Lookout
