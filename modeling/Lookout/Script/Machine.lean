/-
The state of a running script, and how a run can end early.

A run starts on cells that an earlier script has left behind; those are frozen.  A run has a
clock: it goes on by one with each statement, and with each round of a comprehension.  Whether the
run was given up on is checked before each statement, but not before the rounds of a comprehension,
so a run can go on for some time after that.
-/
import Lookout.Script.Datum
import Lookout.Script.Fault

namespace Lookout.Script

/-- The state of a run. -/
structure Machine where
  cells : Array Cell
  /-- The cells below this address are frozen. -/
  frozen : Nat
  /-- The run is given up on at this time of its clock; never, if there is no such number. -/
  cancelAt : Option Nat
  /-- The clock: how many statements, and rounds of comprehensions, have begun. -/
  begun : Nat

/-- How a run can end before its last statement. -/
inductive Halt where
  | fault (f : Fault)
  /-- The run was given up on. -/
  | cancelled
  /-- The worker that ran the script is gone. -/
  | died

/-- A step of a run. -/
abbrev Eval : Type → Type :=
  EStateM Halt Machine

namespace Eval

/-- Ends the run with a fault. -/
def fail {α : Type} (f : Fault) : Eval α :=
  throw (.fault f)

/-- A result that may be a fault. -/
def ofExcept {α : Type} : Except Fault α → Eval α
  | .ok a => pure a
  | .error f => fail f

/-- A value read off the state. -/
def read {α : Type} (f : Machine → α) : Eval α := do
  let m ← get
  pure (f m)

/-- A value read off the state, or a fault. -/
def readOr {α : Type} (f : Machine → Except Fault α) : Eval α := do
  let m ← get
  ofExcept (f m)

end Eval

namespace Machine

/-- Whether the run has been given up on. -/
def isCancelled (m : Machine) : Bool :=
  match m.cancelAt with
  | some n => n ≤ m.begun
  | none => false

/-- The items of a list. -/
def items (m : Machine) (a : Addr) : Array Datum :=
  match m.cells[a]? with
  | some (.list items _) => items
  | _ => #[]

/-- The entries of a dictionary. -/
def entries (m : Machine) (a : Addr) : List (Datum × Datum) :=
  match m.cells[a]? with
  | some (.dict entries _) => entries
  | _ => []

/-- The function at an address. -/
def closure? (m : Machine) (a : Addr) : Option Closure :=
  match m.cells[a]? with
  | some (.function c) => some c
  | _ => none

/-- How many loops are going through a list or dictionary. -/
def readers (m : Machine) (a : Addr) : Nat :=
  match m.cells[a]? with
  | some (.list _ n) => n
  | some (.dict _ n) => n
  | _ => 0

end Machine

/-- A cell after one more loop has begun, or one has ended. -/
def Cell.mapReaders (f : Nat → Nat) : Cell → Cell
  | .list items n => .list items (f n)
  | .dict entries n => .dict entries (f n)
  | c => c

/-- A list with its items changed. -/
def Cell.mapItems (f : Array Datum → Array Datum) : Cell → Cell
  | .list items n => .list (f items) n
  | c => c

/-- A dictionary with its entries changed. -/
def Cell.mapEntries (f : List (Datum × Datum) → List (Datum × Datum)) : Cell → Cell
  | .dict entries n => .dict (f entries) n
  | c => c

/-- Variables with one of them assigned; nothing changes if there is none of that name. -/
def assignIn (name : String) (d : Datum) :
    List (String × Option Datum) → List (String × Option Datum)
  | [] => []
  | (n, old) :: rest => if n = name then (n, some d) :: rest else (n, old) :: assignIn name d rest

/-- A frame with a variable assigned. -/
def Cell.assign (name : String) (d : Datum) : Cell → Cell
  | .frame parent bindings => .frame parent (assignIn name d bindings)
  | c => c

namespace Eval

/-- A new cell. -/
def alloc (c : Cell) : Eval Addr :=
  modifyGet fun m => (m.cells.size, { m with cells := m.cells.push c })

/-- A new list. -/
def newList (items : List Datum) : Eval Datum := do
  let a ← alloc (.list items.toArray 0)
  pure (.list a)

/-- A new dictionary. -/
def newDict (entries : List (Datum × Datum)) : Eval Datum := do
  let a ← alloc (.dict entries 0)
  pure (.dict a)

/-- Changes a cell; frozen cells stay as they are. -/
def change (a : Addr) (f : Cell → Cell) : Eval Unit :=
  modify fun m => if a < m.frozen then m else { m with cells := m.cells.modify a f }

/-- Checks that a list or dictionary may be changed now. -/
def checkMutable (a : Addr) : Eval Unit := do
  let m ← get
  if a < m.frozen then fail .immutable
  else if m.readers a ≠ 0 then fail .mutatedInLoop
  else pure ()

/-- Changes the items of a list. -/
def changeItems (a : Addr) (f : Array Datum → Array Datum) : Eval Unit := do
  checkMutable a
  change a (.mapItems f)

/-- Changes the entries of a dictionary. -/
def changeEntries (a : Addr) (f : List (Datum × Datum) → List (Datum × Datum)) : Eval Unit := do
  checkMutable a
  change a (.mapEntries f)

/-- Runs a step while a cell is being gone through.  A frozen cell gets no mark and needs none,
since nothing changes it. -/
def reading {α : Type} (a : Addr) (step : Eval α) : Eval α := do
  change a (.mapReaders (· + 1))
  let result ← step
  change a (.mapReaders (· - 1))
  pure result

/-- Stops a run that was given up on; otherwise counts one more statement. -/
def beginStatement : Eval Unit := do
  let m ← get
  if m.isCancelled then throw .cancelled
  else modify fun m => { m with begun := m.begun + 1 }

/-- Counts one more round of a comprehension, whether the run was given up on or not. -/
def beginRound : Eval Unit :=
  modify fun m => { m with begun := m.begun + 1 }

end Eval

end Lookout.Script
