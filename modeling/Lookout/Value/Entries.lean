/-
The entries of a map: pairs in strictly increasing order of their keys.

Keys are compared by code point.  Inserting keeps the order and replaces the entry of a key
that is already there, so entries inserted in any order are held in one way only.
-/

namespace Lookout

/-- Pairs of a key and a value. -/
abbrev Entries (α : Type) : Type :=
  List (String × α)

namespace Entries

variable {α β : Type}

/-- The entries with `key` bound to `value`, in the place that the order gives it. -/
def insert (key : String) (value : α) : Entries α → Entries α
  | [] => [(key, value)]
  | (k, v) :: rest =>
    if key < k then (key, value) :: (k, v) :: rest
    else if key = k then (key, value) :: rest
    else (k, v) :: insert key value rest

/-- The value bound to a key. -/
def find? (key : String) : Entries α → Option α
  | [] => none
  | (k, v) :: rest => if k = key then some v else find? key rest

/-- The entries that a sequence of pairs builds: of pairs with one key the last one counts. -/
def ofList (pairs : List (String × α)) : Entries α :=
  pairs.foldl (fun entries pair => entries.insert pair.1 pair.2) []

/-- The keys, in order. -/
def keys (entries : Entries α) : List String :=
  entries.map (·.1)

/-- Keys increase strictly from each entry to the next. -/
def Sorted (entries : Entries α) : Prop :=
  entries.Pairwise fun a b => a.1 < b.1

end Entries

end Lookout
