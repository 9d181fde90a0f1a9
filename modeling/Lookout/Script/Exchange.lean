/-
Values going into a script, and data coming out of it.

On the way in maps become dictionaries in the order of their keys, and an integer that a
signed word does not hold becomes a float.  On the way out a datum is plain if it is made of
nothing, booleans, numbers, text, sequences, dictionaries and structs; an integer that 32 bits
do not hold becomes its decimal text, and a float that is not finite becomes null.
-/
import Lookout.Json.Printer
import Lookout.Script.Compare

namespace Lookout.Script

/-! ### In -/

/-- The datum of a number. -/
def Num.ofNumber : Number → Datum
  | .int n _ => if n < 0x8000000000000000 then .int n else .float (Float.ofInt n)
  | .float x _ => .float x

mutual

/-- The datum of a value, where `number` is the datum of a number; each list and map becomes
a cell of its own. -/
def Eval.ofValue (number : Number → Datum) : Value → Eval Datum
  | .null => pure .none
  | .bool b => pure (.bool b)
  | .number n => pure (number n)
  | .string s => pure (.string s)
  | .list items => do
    let data ← Eval.ofValues number items
    Eval.newList data
  | .map entries => do
    let data ← Eval.ofEntries number entries
    Eval.newDict data

/-- The data of the items of a list. -/
def Eval.ofValues (number : Number → Datum) : List Value → Eval (List Datum)
  | [] => pure []
  | v :: vs => do
    let d ← Eval.ofValue number v
    let ds ← Eval.ofValues number vs
    pure (d :: ds)

/-- The data of the entries of a map. -/
def Eval.ofEntries (number : Number → Datum) :
    List (String × Value) → Eval (List (Datum × Datum))
  | [] => pure []
  | (key, v) :: entries => do
    let d ← Eval.ofValue number v
    let rest ← Eval.ofEntries number entries
    pure ((.string key, d) :: rest)

end

/-! ### Out -/

/-- Why a datum is not plain. -/
inductive NotPlain where
  | unsupported (type : String)
  | key
  | floatKey
  | cycle (type : String)
deriving DecidableEq, Repr

/-- The message about a datum that is not plain. -/
def NotPlain.message : NotPlain → String
  | unsupported type => "Operation `serde::serialize` not supported on type `" ++ type ++ "`"
  | key => "key must be a string"
  | floatKey => "float key must be finite (got NaN or +/-inf)"
  | cycle type => "Cycle detected when serializing value of type `" ++ type ++ "` to JSON"

/-- The JSON number or text of an integer. -/
def plainInt (n : Int) : JsonDocument :=
  if -0x80000000 ≤ n ∧ n < 0x80000000 then
    match Number.ofInt? n with
    | some m => .number m
    | none => .string (intText n)
  else .string (intText n)

/-- The JSON number of a float, if it is finite. -/
def plainFloat (x : Float) : JsonDocument :=
  match Number.ofFloat? x with
  | some n => .number n
  | none => .null

/-- The member name that a key becomes. -/
def plainKey : Datum → Except NotPlain String
  | .string s => .ok s
  | .bool b => .ok (if b then "true" else "false")
  | .int n => .ok (intText n)
  | .float x =>
    if x.isFinite then .ok (String.ofList (jsonFloat.text x)) else .error .floatKey
  | _ => .error .key

mutual

/-- The document of a datum, where `cell` gives the one of a list or dictionary. -/
def Datum.plain (cell : Addr → Except NotPlain JsonDocument) :
    Datum → Except NotPlain JsonDocument
  | .none => .ok .null
  | .bool b => .ok (.bool b)
  | .int n => .ok (plainInt n)
  | .float x => .ok (plainFloat x)
  | .string s => .ok (.string s)
  | .tuple items => (plainItems cell items).map .array
  | .struct fields => (plainFields cell fields).map .object
  | .list a => cell a
  | .dict a => cell a
  | d => .error (.unsupported d.typeName)

/-- The documents of some data. -/
def plainItems (cell : Addr → Except NotPlain JsonDocument) :
    List Datum → Except NotPlain (List JsonDocument)
  | [] => .ok []
  | d :: ds => do
    let item ← Datum.plain cell d
    let items ← plainItems cell ds
    .ok (item :: items)

/-- The members of a struct. -/
def plainFields (cell : Addr → Except NotPlain JsonDocument) :
    List (String × Datum) → Except NotPlain (List (String × JsonDocument))
  | [] => .ok []
  | (name, d) :: fields => do
    let member ← Datum.plain cell d
    let members ← plainFields cell fields
    .ok ((name, member) :: members)

end

/-- The members of a dictionary. -/
def plainEntries (cell : Addr → Except NotPlain JsonDocument) :
    List (Datum × Datum) → Except NotPlain (List (String × JsonDocument))
  | [] => .ok []
  | (key, d) :: entries => do
    let name ← plainKey key
    let member ← Datum.plain cell d
    let members ← plainEntries cell entries
    .ok ((name, member) :: members)

namespace Machine

/-- The document of a list or dictionary; `path` holds the cells it is in, and `fuel` bounds
the cells still to come. -/
def plainCell (m : Machine) : Nat → List Addr → Addr → Except NotPlain JsonDocument
  | 0, _, _ => .error (.cycle "list")
  | fuel + 1, path, a =>
    match m.cells[a]? with
    | some (.dict entries _) =>
      if path.contains a then .error (.cycle "dict")
      else (plainEntries (plainCell m fuel (a :: path)) entries).map .object
    | _ =>
      if path.contains a then .error (.cycle "list")
      else (plainItems (plainCell m fuel (a :: path)) (m.items a).toList).map .array

/-- The document of a datum.  No path goes through more cells than there are. -/
def plain (m : Machine) (d : Datum) : Except NotPlain JsonDocument :=
  d.plain (m.plainCell (m.cells.size + 2) [])

/-- The value of a datum. -/
def toValue (m : Machine) (d : Datum) : Except NotPlain Value :=
  (m.plain d).map JsonDocument.toValue

end Machine

end Lookout.Script
