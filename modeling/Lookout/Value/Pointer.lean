/-
Dotted paths into a value, such as `hits.hits.0._source`.

A path is split at its dots; each segment is a map key or, in a list, the decimal text of a
position.  The empty path is the value itself.
-/
import Lookout.Value.Basic

namespace Lookout

/-- The bound of an unsigned 64-bit integer. -/
def wordBound : Nat := 0x10000000000000000

/-- The number written by a non-empty run of decimal digits. -/
def decimalDigits? (cs : List Char) : Option Nat :=
  if !cs.isEmpty && cs.all Char.isDigit then some (Nat.ofDigitChars 10 cs 0) else none

/-- An unsigned 64-bit decimal; a plus sign and leading zeros may stand in front. -/
def unsigned64? (cs : List Char) : Option Nat :=
  let digits := match cs with
    | '+' :: rest => rest
    | _ => cs
  (decimalDigits? digits).filter (· < wordBound)

/-- The pieces of a text between the occurrences of a separator. -/
def splitAt (separator : Char) : List Char → List (List Char)
  | [] => [[]]
  | c :: rest =>
    match splitAt separator rest with
    | [] => [[]]
    | piece :: pieces =>
      if c = separator then [] :: piece :: pieces else (c :: piece) :: pieces

namespace Value

/-- One step of a path: a key of a map, or a position in a list. -/
def step? (segment : List Char) : Value → Option Value
  | map entries => Entries.find? (String.ofList segment) entries
  | list items => (unsigned64? segment).bind (items[·]?)
  | _ => none

/-- The value that a sequence of steps leads to. -/
def follow? : List (List Char) → Value → Option Value
  | [], v => some v
  | segment :: rest, v => (v.step? segment).bind (follow? rest)

/-- The value at a dotted path. -/
def pointer? (path : String) (v : Value) : Option Value :=
  if path.isEmpty then some v else follow? (splitAt '.' path.toList) v

end Value

end Lookout
