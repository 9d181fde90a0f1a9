/-
Quoted text for messages.

A quoted text stands between double quotes.  Characters that would not be seen, or would
join the one before them, are written as escapes, so a message shows exactly what a name
holds.
-/
import Lookout.Text.Printable

namespace Lookout

namespace Quoted

/-- The hexadecimal digits of a code point, lower case and without padding. -/
def hexDigits (n : Nat) : List Char :=
  Nat.toDigits 16 n

/-- How one character stands in a quoted text. -/
def escape (c : Char) : List Char :=
  match c with
  | '"' => ['\\', '"']
  | '\\' => ['\\', '\\']
  | '\n' => ['\\', 'n']
  | '\r' => ['\\', 'r']
  | '\t' => ['\\', 't']
  | '\x00' => ['\\', '0']
  | _ => if isShownAlone c then [c] else '\\' :: 'u' :: '\x7b' :: hexDigits c.toNat ++ ['\x7d']

end Quoted

/-- A text in quotes, with escapes for what would not show. -/
def quoted (s : String) : String :=
  String.ofList ('"' :: s.toList.flatMap Quoted.escape ++ ['"'])

end Lookout
