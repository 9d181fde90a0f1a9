/-
The interpreter: a script run against a context.

An interpreter is what its helper script left behind: cells, which are frozen from then on,
and the public names among its variables.  A condition script runs in a frame of its own that
starts with those names and with the context's name, start time and result.  Afterwards the
datum of its last statement decides, and what `result` is bound to is read back.
-/
import Lookout.Context
import Lookout.Script.Evaluate
import Lookout.Script.Placement

namespace Lookout.Script

/-- Why a script has no outcome. -/
inductive Trouble where
  /-- The text is not a script. -/
  | unreadable (f : SyntaxFault)
  /-- A name that nothing binds. -/
  | unbound (name : String)
  /-- A fault while the script ran. -/
  | runtime (f : Fault)
  /-- The result that the script left is not plain data. -/
  | notPlain (e : NotPlain)
  /-- The run was given up on. -/
  | cancelled
  /-- The worker did not survive the run. -/
  | died
deriving DecidableEq, Repr

/-- The text of a trouble. -/
def Trouble.message : Trouble → String
  | unreadable f => "error: " ++ f.message
  | unbound name => "error: " ++ (Fault.unknownName name).message
  | runtime f => "error: " ++ f.message
  | notPlain e => "`result` is not plain data: " ++ e.message
  | cancelled => "evaluation cancelled"
  | died => "worker stopped mid-run"

/-- The trouble that a halt is. -/
def Halt.trouble : Halt → Trouble
  | fault f => .runtime f
  | cancelled => .cancelled
  | died => .died

/-- What a condition run produced. -/
structure Outcome where
  /-- Whether the last statement was an expression that is true. -/
  matched : Bool
  /-- What the script left in `result`. -/
  result : Value

/-- An interpreter. -/
structure Interpreter where
  /-- What the helper script made. -/
  cells : Array Cell
  /-- Its public variables. -/
  helpers : List (String × Datum)

/-- The name of the helper script. -/
def helperScript : String := "init.star"

/-- The variables that other scripts can see: those that are assigned and whose name does not
start with a low line. -/
def publicNames (bindings : List (String × Option Datum)) : List (String × Datum) :=
  bindings.filterMap fun (name, d) =>
    if name.startsWith "_" then none else d.map fun d => (name, d)

/-- The variables of the frame at an address. -/
def Machine.bindings (m : Machine) (a : Addr) : List (String × Option Datum) :=
  match m.cells[a]? with
  | some (.frame _ bindings) => bindings
  | _ => []

/-- Variables with those added that statements bind and that are not among them. -/
def withBound (given : List (String × Datum)) (statements : List Stmt) :
    List (String × Option Datum) :=
  given.map (fun (name, d) => (name, some d))
    ++ ((boundNames statements).eraseDups.filter fun n => !given.any fun g => g.1 = n).map
      fun n => (n, none)

/-- The first name that nothing binds, where `given` holds the names that the script starts
with. -/
def unboundName? (given : List (String × Datum)) (statements : List Stmt) : Option String :=
  unknownStmt?
    (boundNames statements ++ given.map (·.1) ++ builtinNames.map (·.1)) statements

/-- A script run in a new frame that starts with the given variables.  The answer is the frame
and the datum of the last statement. -/
def runTop (name : String) (given : List (String × Datum)) (statements : List Stmt) :
    Eval (Addr × Option Datum) := do
  let frame ← Eval.alloc (.frame none (withBound given statements))
  let last ← Eval.script ⟨Eval.callDatum Eval.callDepth, name, frame⟩ statements
  pure (frame, last)

namespace Interpreter

/-- The interpreter without helpers. -/
def bare : Interpreter := ⟨#[], []⟩

/-- The interpreter that a helper script makes. -/
def ofScript (source : String) : Except Trouble Interpreter :=
  match parse source with
  | .error f => .error (.unreadable f)
  | .ok statements =>
    match unboundName? [] statements with
    | some name => .error (.unbound name)
    | none =>
      match (runTop helperScript [] statements).run ⟨#[], 0, none, 0⟩ with
      | .ok (frame, _) m => .ok ⟨m.cells, publicNames (m.bindings frame)⟩
      | .error h _ => .error h.trouble

/-- The interpreter that starts with a helper script, if there is one. -/
def start : Option String → Except Trouble Interpreter
  | none => .ok bare
  | some source => ofScript source

/-- The variables that a condition starts with: the context's come in front of helpers of the
same name. -/
def given (i : Interpreter) (context : AlertContext) (result : Datum) : List (String × Datum) :=
  let own : List (String × Datum) :=
    [("name", .string context.name),
      ("started_ts", .int (min (context.startedTs : Int) (0x7FFFFFFFFFFFFFFF))),
      ("result", result)]
  own ++ i.helpers.filter fun h => !own.any fun o => o.1 = h.1

/-- What a condition run leaves: its outcome from the last datum and the final state. -/
def readOutcome (m : Machine) (frame : Addr) (last : Option Datum) : Except Trouble Outcome :=
  let matched := (last.map m.truth).getD false
  match (m.bindings frame).lookup "result" with
  | some (some d) =>
    match m.toValue d with
    | .ok v => .ok ⟨matched, v⟩
    | .error e => .error (.notPlain e)
  | _ => .ok ⟨matched, .null⟩

/-- The steps of a condition run from the context on. -/
def condition (i : Interpreter) (context : AlertContext) (statements : List Stmt) :
    Eval (Addr × Option Datum) := do
  let result ← Eval.ofValue Num.ofNumber context.result
  runTop context.name (i.given context result) statements

/-- Runs a condition against a context.  It is given up on at the time `cancelAt` of its clock,
before it begins if that is zero.  Also gives the interpreter that is left for the next run. -/
def run (i : Interpreter) (cancelAt : Option Nat) (source : String) (context : AlertContext) :
    Except Trouble Outcome × Interpreter :=
  if cancelAt = some 0 then (.error .cancelled, i)
  else
    match parse source with
    | .error f => (.error (.unreadable f), i)
    | .ok statements =>
      match unboundName? (i.given context .none) statements with
      | some name => (.error (.unbound name), i)
      | none =>
        let left (m : Machine) : Interpreter := { i with cells := m.cells.take m.frozen }
        match (condition i context statements).run ⟨i.cells, i.cells.size, cancelAt, 0⟩ with
        | .ok (frame, last) m => (readOutcome m frame last, left m)
        | .error h m => (.error h.trouble, left m)

/-- The time on the clock of a run when it ends. -/
def lasts (i : Interpreter) (cancelAt : Option Nat) (source : String) (context : AlertContext) :
    Nat :=
  match parse source with
  | .error _ => 0
  | .ok statements =>
    match (condition i context statements).run ⟨i.cells, i.cells.size, cancelAt, 0⟩ with
    | .ok _ m => m.begun
    | .error _ m => m.begun

end Interpreter

end Lookout.Script
