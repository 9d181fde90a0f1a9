/-
Tables of a settings document.

A document is filled one key at a time, and a header turns to another table.  No key is ever
set twice.  Whether a table may be entered again depends on how it came to be: by a header, on
the way to one, by a dotted key, or in one piece as a value.
-/

namespace Lookout.Toml

/-- How a table came to be. -/
inductive Origin where
  /-- By a header of its own. -/
  | header
  /-- On the way to the table of a header. -/
  | passed
  /-- By a dotted key. -/
  | dotted
  /-- In one piece, as a value. -/
  | inline
deriving DecidableEq, Repr

/-- What a key stands for. -/
inductive Item where
  | string (s : String)
  | integer (n : Int)
  | float (x : Float)
  | bool (b : Bool)
  | date
  | array (items : List Item)
  | table (origin : Origin) (entries : List (String × Item))
  /-- Tables under one header, each a row; the last is the one that is being filled. -/
  | tables (rows : List (List (String × Item)))
deriving Inhabited

/-- The keys of a table and what they stand for, in the order in which they came. -/
abbrev Entries : Type := List (String × Item)

namespace Entries

/-- Entries with what a key stands for replaced. -/
def replace (key : String) (item : Item) (entries : Entries) : Entries :=
  entries.map fun e => if e.1 = key then (key, item) else e

/-- Entries with one more key, which must be new. -/
def add? (key : String) (item : Item) (entries : Entries) : Option Entries :=
  if (entries.lookup key).isSome then none else some (entries ++ [(key, item)])

/-- Whether a table may be entered: by a dotted key if it has no header of its own, on the way
to a header always; one that is a value never. -/
def mayEnter (dotted : Bool) (origin : Origin) : Bool :=
  origin ≠ .inline && !(dotted && origin = .header)

/-- The entries with those of the table at the end of a path changed.  Tables that are not
there are made on the way; of several tables under a header the last one counts. -/
def alter (dotted : Bool) (change : Origin → Entries → Option Entries) :
    List String → Origin → Entries → Option Entries
  | [], origin, entries => change origin entries
  | key :: path, _, entries =>
    match entries.lookup key with
    | none =>
      let origin := if dotted then .dotted else .passed
      (alter dotted change path origin []).map fun es => entries ++ [(key, .table origin es)]
    | some (.table origin es) =>
      if mayEnter dotted origin then
        (alter dotted change path origin es).map fun es => entries.replace key (.table origin es)
      else none
    | some (.tables rows) =>
      (alter dotted change path .header (rows.getLastD [])).map fun es =>
        entries.replace key (.tables (rows.dropLast ++ [es]))
    | some _ => none

/-- The entries of a table with one more key at the end of a path.  The table of a dotted key
must come from dotted keys, and one of a plain key must not. -/
def set? (path : List String) (key : String) (item : Item) (origin : Origin) (entries : Entries) :
    Option Entries :=
  alter true
    (fun origin es =>
      if (origin = .dotted) = path.isEmpty then none else es.add? key item)
    path origin entries

/-- The entries with a table under a header; it may have been passed on the way to others. -/
def openTable? (key : String) (entries : Entries) : Option Entries :=
  match entries.lookup key with
  | none => some (entries ++ [(key, .table .header [])])
  | some (.table .passed es) =>
    some (entries.filter (·.1 ≠ key) ++ [(key, .table .header es)])
  | some _ => none

/-- The entries with one more row under a header. -/
def openRow? (key : String) (entries : Entries) : Option Entries :=
  match entries.lookup key with
  | none => some (entries ++ [(key, .tables [[]])])
  | some (.tables rows) => some (entries.replace key (.tables (rows ++ [[]])))
  | some _ => none

end Entries

end Lookout.Toml
