/-
The arguments of a call bound to the parameters of a function.

Arguments by position fill the parameters in order, named ones by name.  A name that comes
twice is found first, then a parameter without a value, then arguments left over.
-/
import Lookout.Script.Annotation
import Lookout.Script.Arguments

namespace Lookout.Script

/-- The plain parameters that take arguments by position: those before a star. -/
def placedParams : List BoundParam → List BoundParam
  | [] => []
  | p :: ps =>
    match p.kind with
    | .plain => p :: placedParams ps
    | .slash => placedParams ps
    | _ => []

/-- The plain parameters that take arguments by name: those not before a slash. -/
def namedParams (params : List BoundParam) : List BoundParam :=
  let behind := match params.findIdx? fun p => p.kind = .slash with
    | some i => params.drop i
    | none => params
  behind.filter fun p => p.kind = .plain

/-- Whether one of the parameters has a name. -/
def hasName (name : String) (params : List BoundParam) : Bool :=
  params.any fun p => p.name = name

/-- The first name that a list of named arguments gives twice. -/
def repeatedName? : List (String × Datum) → Option String
  | [] => none
  | (name, _) :: rest => if rest.any (·.1 = name) then some name else repeatedName? rest

/-- The arguments of a call, sorted out. -/
structure Assigned where
  /-- The values of plain parameters. -/
  values : List (String × Datum)
  rest : List Datum
  restNamed : List (String × Datum)

/-- The arguments of a call sorted out for the parameters of a function. -/
def assignArguments (params : List BoundParam) (args : Arguments) : Except Fault Assigned :=
  let placed := placedParams params
  let filled := (placed.map (·.name)).zip args.positional
  let (byName, others) := args.named.partition fun n => hasName n.1 (namedParams params)
  match byName.find? fun n => filled.any fun f => f.1 = n.1 with
  | some (name, _) => .error (.repeatedArgument name)
  | none =>
    match repeatedName? args.named with
    | some name => .error (.repeatedArgument name)
    | none => .ok ⟨filled ++ byName, args.positional.drop placed.length, others⟩

/-- The first plain parameter without a value and without a default, and whether it can only
be given by name. -/
def missingParam? (values : List (String × Datum)) (onlyNamed : Bool) :
    List BoundParam → Option (String × Bool)
  | [] => none
  | p :: ps =>
    match p.kind with
    | .plain =>
      if p.fallback.isNone && (values.lookup p.name).isNone then some (p.name, onlyNamed)
      else missingParam? values onlyNamed ps
    | .slash => missingParam? values onlyNamed ps
    | _ => missingParam? values true ps

/-- The fault of arguments left over, if the function does not take them. -/
def leftOver? (params : List BoundParam) (function : String) (a : Assigned) : Option Fault :=
  if !a.rest.isEmpty && !params.any fun p => p.kind = .rest then
    some (.extraPositional a.rest.length function)
  else if !a.restNamed.isEmpty && !params.any fun p => p.kind = .restNamed then
    some (.extraNamed (a.restNamed.map (·.1)) function)
  else none

namespace Eval

/-- Checks a datum against a type. -/
def checkType (type : Option TypeSpec) (place : String) (d : Datum) : Eval Unit := do
  match type with
  | none => pure ()
  | some t =>
    let m ← get
    if t.accepts m d then pure ()
    else fail (.typeMismatch (m.plainText d) d.typeName t.text place)

/-- Checks data against a type. -/
def checkTypes (type : Option TypeSpec) (place : String) : List Datum → Eval Unit
  | [] => pure ()
  | d :: ds => do
    checkType type place d
    checkTypes type place ds

/-- The variables that a call binds, in the order of the parameters. -/
def bindParams (a : Assigned) : List BoundParam → Eval (List (String × Option Datum))
  | [] => pure []
  | p :: ps => do
    let place := "argument `" ++ p.name ++ "`"
    match p.kind with
    | .plain =>
      let d := ((a.values.lookup p.name).or p.fallback).getD .none
      checkType p.type place d
      let others ← bindParams a ps
      pure ((p.name, some d) :: others)
    | .rest =>
      checkTypes p.type place a.rest
      let others ← bindParams a ps
      pure ((p.name, some (.tuple a.rest)) :: others)
    | .restNamed =>
      checkTypes p.type place (a.restNamed.map (·.2))
      let d ← newDict (a.restNamed.map fun (name, d) => (.string name, d))
      let others ← bindParams a ps
      pure ((p.name, some d) :: others)
    | _ => bindParams a ps

/-- The frame of a call: its parameters bound, its other names not assigned yet. -/
def openFrame (c : Closure) (args : Arguments) : Eval Addr := do
  let assigned ← ofExcept (assignArguments c.params args)
  match missingParam? assigned.values false c.params with
  | some (name, false) => fail (.missingParam name c.fullName)
  | some (name, true) => fail (.missingNamedParam name c.fullName)
  | none =>
    match leftOver? c.params c.fullName assigned with
    | some f => fail f
    | none =>
      let bound ← bindParams assigned c.params
      let others := c.locals.filter fun n => !bound.any fun b => b.1 = n
      alloc (.frame (some c.scope) (bound ++ others.map fun n => (n, none)))

end Eval

end Lookout.Script
