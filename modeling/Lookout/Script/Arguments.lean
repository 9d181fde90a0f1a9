/-
The arguments of a call, as built-in functions take them.

Most of them take their arguments by position only; the count is checked before any type.
-/
import Lookout.Script.Items

namespace Lookout.Script

/-- The arguments of a call. -/
structure Arguments where
  positional : List Datum
  named : List (String × Datum)

instance : Inhabited Arguments := ⟨[], []⟩

namespace Eval

/-- The arguments given by position, within a count; none may be given by name. -/
def positionalOnly (args : Arguments) (least most : Nat) : Eval (List Datum) :=
  if !args.named.isEmpty then fail (.extraNamed (args.named.map (·.1)) "function")
  else
    let found := args.positional.length
    if least ≤ found && found ≤ most then pure args.positional
    else fail (.wrongCount least most found)

/-- The fault of an argument whose type a function does not take. -/
def wrongParam {α : Type} (param expected : String) (d : Datum) : Eval α := do
  let text ← shown d
  fail (.wrongParamType param expected d.typeName text)

/-- A text. -/
def textParam (param : String) (d : Datum) : Eval String :=
  match d with
  | .string s => pure s
  | d => wrongParam param "str" d

/-- An integer that can count positions; `expected` names the types that the parameter takes. -/
def intParam (param expected : String) (d : Datum) : Eval Int :=
  match d with
  | .int n => if isIndex n then pure n else fail (.tooBigForIndex n)
  | d => wrongParam param expected d

/-- A boolean. -/
def boolParam (param : String) (d : Datum) : Eval Bool :=
  match d with
  | .bool b => pure b
  | d => wrongParam param "bool" d

/-- An argument that may be left out. -/
def optionalParam {α : Type} (read : Datum → Eval α) : Option Datum → Eval (Option α)
  | none => pure none
  | some d => do
    let x ← read d
    pure (some x)

/-- An argument that may be left out or be nothing. -/
def maybeParam {α : Type} (read : Datum → Eval α) : Option Datum → Eval (Option α)
  | none => pure none
  | some .none => pure none
  | some d => do
    let x ← read d
    pure (some x)

/-- A text that may be nothing. -/
def maybeText (param : String) : Option Datum → Eval (Option String) :=
  maybeParam fun d =>
    match d with
    | .string s => pure s
    | d => wrongParam param "None | str" d

/-- An integer that may be nothing. -/
def maybeInt (param : String) : Option Datum → Eval (Option Int) :=
  maybeParam (intParam param "None | int")

end Eval

end Lookout.Script
