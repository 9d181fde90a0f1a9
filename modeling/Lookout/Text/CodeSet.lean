/-
Sets of code points, and the case runs that a case mapping is made of.

A set is written as the increasing list of code points at which membership changes,
starting outside the set.  A code point is inside when an odd number of changes lie at
or below it, so a table of a character property is a list of numbers and nothing else.
-/

namespace Lookout

/-- A set of code points, as the increasing list of the points where membership changes. -/
structure CodeSet where
  /-- The points of change: the first enters the set, the second leaves it, and so on. -/
  changes : List Nat

namespace CodeSet

/-- Membership flips at every change that is not above the code point. -/
def containsFrom (inside : Bool) (code : Nat) : List Nat → Bool
  | [] => inside
  | change :: rest => if code < change then inside else containsFrom (!inside) code rest

/-- Whether the character's code point lies in the set. -/
def contains (s : CodeSet) (c : Char) : Bool :=
  containsFrom false c.toNat s.changes

end CodeSet

/-- A run of code points `first`, `first + stride`, … , `last` that a case mapping
shifts by the same distance. -/
structure CaseRun where
  first : Nat
  last : Nat
  stride : Nat
  shift : Int

namespace CaseRun

/-- Whether the run maps this code point. -/
def covers (r : CaseRun) (code : Nat) : Bool :=
  r.first ≤ code && code ≤ r.last && (code - r.first) % r.stride == 0

/-- The image of a code point under the first run that covers it, or the point itself. -/
def map (runs : List CaseRun) (code : Nat) : Nat :=
  match runs.find? (·.covers code) with
  | some r => (code + r.shift).toNat
  | none => code

end CaseRun

end Lookout
