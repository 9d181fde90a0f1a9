/-
What expressions and statements of a script do.

Each function call and each comprehension opens a frame for the names it binds; other names
are looked for in the frames around it, and last among the built-in ones.  How a function is
called is given to the evaluation: a call may go so many calls deep and no deeper.
-/
import Lookout.Script.Builtins
import Lookout.Script.Calls
import Lookout.Script.Names

namespace Lookout.Script

/-- Where an expression stands. -/
structure Scope where
  call : Eval.Caller
  /-- The name of the script. -/
  script : String
  frame : Addr

/-- The same place with a frame inside. -/
def Scope.within (s : Scope) (frame : Addr) : Scope :=
  { s with frame := frame }

/-! ### Names -/

/-- The data of the built-in names. -/
def builtinNames : List (String × Datum) :=
  [("None", .none), ("True", .bool true), ("False", .bool false), ("json", jsonNamespace)]
    ++ Builtin.named.map fun (name, b) => (name, .builtin b)

/-- The variable of a name in a frame or in one around it; a frame is made after the one
around it, so going out ends. -/
def Machine.binding? (m : Machine) (name : String) : Nat → Addr → Option (Option Datum)
  | 0, _ => none
  | fuel + 1, a =>
    match m.cells[a]? with
    | some (.frame parent bindings) =>
      match bindings.lookup name with
      | some d => some d
      | none =>
        match parent with
        | some p => m.binding? name fuel p
        | none => none
    | _ => none

/-- The datum of a name. -/
def Machine.named (m : Machine) (frame : Addr) (name : String) : Except Fault Datum :=
  match m.binding? name (frame + 1) frame with
  | some (some d) => .ok d
  | some none => .error (.unassigned name)
  | none =>
    match builtinNames.lookup name with
    | some d => .ok d
    | none => .error (.unknownName name)

namespace Eval

/-- The datum of a name. -/
def nameIn (s : Scope) (name : String) : Eval Datum :=
  readOr fun m => m.named s.frame name

/-! ### Annotations -/

/-- The type that an annotation stands for. -/
def typeOf (s : Scope) : Expr → Eval TypeSpec
  | .name n => do
    let d ← nameIn s n
    match TypeSpec.ofDatum? d with
    | some t => pure t
    | none =>
      let text ← shown d
      fail (.badType text)
  | .binary .bitOr a b => do
    let left ← typeOf s a
    let right ← typeOf s b
    pure (left.either right)
  | .item (.name n) index => do
    let d ← nameIn s n
    let item ← typeOf s index
    match d with
    | .builtin .list => pure (.list item)
    | .builtin .tuple => pure (.tupleOf [item])
    | d =>
      let text ← shown d
      fail (.badType text)
  | .itemPair (.name n) first .ellipsis => do
    let d ← nameIn s n
    let item ← typeOf s first
    match d with
    | .builtin .tuple => pure (.tupleEach item)
    | d =>
      let text ← shown d
      fail (.badType text)
  | .itemPair (.name n) first second => do
    let d ← nameIn s n
    let a ← typeOf s first
    let b ← typeOf s second
    match d with
    | .builtin .dict => pure (.dict a b)
    | .builtin .tuple => pure (.tupleOf [a, b])
    | d =>
      let text ← shown d
      fail (.badType text)
  | _ => fail (.badType "...")

/-- The type of an annotation that may be absent. -/
def typeOption (s : Scope) : Option Expr → Eval (Option TypeSpec)
  | none => pure none
  | some e => do
    let t ← typeOf s e
    pure (some t)

/-! ### Parts of expressions -/

/-- A dictionary of keys and values that are all known; a key may not come twice. -/
def dictOfDistinct (a : Addr) : List (Datum × Datum) → Eval Unit
  | [] => pure ()
  | (key, value) :: entries => do
    match ← lookup a key with
    | some _ =>
      let text ← shown key
      fail (.repeatedKey text)
    | none =>
      enterKey a key value
      dictOfDistinct a entries

/-- The items of a positional spread. -/
def spreadItems (d : Datum) : Eval (List Datum) := do
  let m ← get
  match m.itemsOf d with
  | .ok items => pure items
  | .error _ => fail .spreadNotIterable

/-- The named arguments of a named spread. -/
def spreadNames : List (Datum × Datum) → Eval (List (String × Datum))
  | [] => pure []
  | (.string name, d) :: entries => do
    let rest ← spreadNames entries
    pure ((name, d) :: rest)
  | _ :: _ => fail .spreadNamedKey

/-- The entries of a named spread. -/
def spreadEntries (d : Datum) : Eval (List (String × Datum)) := do
  match d with
  | .dict a =>
    let entries ← read fun m => m.entries a
    spreadNames entries
  | _ => fail .spreadNamedNotDict

/-- The attribute of a datum. -/
def attributeOf (d : Datum) (name : String) : Eval Datum :=
  match attribute? d name with
  | some r => pure r
  | none => fail (.noAttribute d.typeName name)

/-- The results of a step for each of some data, put together. -/
def gather {α : Type} (step : Datum → Eval (List α)) : List Datum → Eval (List α)
  | [] => pure []
  | d :: ds => do
    let xs ← step d
    let rest ← gather step ds
    pure (xs ++ rest)

/-- Binds a name in the present frame. -/
def assignName (s : Scope) (name : String) (d : Datum) : Eval Unit :=
  change s.frame (.assign name d)

/-- A new frame whose names are not assigned yet. -/
def innerFrame (s : Scope) (names : List String) : Eval Addr :=
  alloc (.frame (some s.frame) (names.map fun n => (n, none)))

/-! ### Expressions -/

mutual

/-- The datum of an expression. -/
def expr (s : Scope) : Expr → Eval Datum
  | .name n => nameIn s n
  | .int n => pure (.int n)
  | .float x => pure (.float x)
  | .string t => pure (.string t)
  | .ellipsis => pure .ellipsis
  | .tuple items => do
    let ds ← exprs s items
    pure (.tuple ds)
  | .list items => do
    let ds ← exprs s items
    newList ds
  | .dict entries => do
    let es ← entryExprs s entries
    let a ← alloc (.dict [] 0)
    dictOfDistinct a es
    pure (.dict a)
  | .choice condition whenTrue whenFalse => do
    let d ← expr s condition
    if ← truth d then expr s whenTrue else expr s whenFalse
  | .negation operand => do
    let d ← expr s operand
    let b ← truth d
    pure (.bool !b)
  | .both left right => do
    let d ← expr s left
    if ← truth d then expr s right else pure d
  | .either left right => do
    let d ← expr s left
    if ← truth d then pure d else expr s right
  | .unary op operand => do
    let d ← expr s operand
    ofExcept (applyUnary op d)
  | .binary op left right => do
    let a ← expr s left
    let b ← expr s right
    applyBinary formatPercent op a b
  | .call callee arguments => do
    let f ← expr s callee
    let args ← argumentData s arguments
    s.call f args
  | .attribute owner name => do
    let d ← expr s owner
    attributeOf d name
  | .item owner index => do
    let d ← expr s owner
    let i ← expr s index
    itemAt d i
  | .itemPair owner first second => do
    let d ← expr s owner
    let _ ← expr s first
    let _ ← expr s second
    fail (.unsupported "[,]" d.typeName)
  | .slice owner start stop step => do
    let d ← expr s owner
    let first ← optionExpr s start
    let last ← optionExpr s stop
    let by_ ← optionExpr s step
    sliceOf d first last by_
  | .lambda params body => do
    let bound ← paramData s params
    let a ← alloc (.function ⟨s.script, "lambda", bound, none, .value body, paramNames params,
      s.frame⟩)
    pure (.function a)
  | .listOf item clauses => do
    let frame ← innerFrame s (clauseNames clauses)
    let inner := s.within frame
    let found ← clauseData s inner (do
      let d ← expr inner item
      pure [(d, Datum.none)]) clauses
    newList (found.map (·.1))
  | .dictOf key value clauses => do
    let frame ← innerFrame s (clauseNames clauses)
    let inner := s.within frame
    let a ← alloc (.dict [] 0)
    let _ ← clauseData s inner (do
      let k ← expr inner key
      let v ← expr inner value
      enterKey a k v
      pure []) clauses
    pure (.dict a)

/-- The datum of an expression that may be absent. -/
def optionExpr (s : Scope) : Option Expr → Eval (Option Datum)
  | none => pure none
  | some e => do
    let d ← expr s e
    pure (some d)

/-- The data of expressions, in order. -/
def exprs (s : Scope) : List Expr → Eval (List Datum)
  | [] => pure []
  | e :: es => do
    let d ← expr s e
    let ds ← exprs s es
    pure (d :: ds)

/-- The data of the entries of a dictionary, in order. -/
def entryExprs (s : Scope) : List (Expr × Expr) → Eval (List (Datum × Datum))
  | [] => pure []
  | (key, value) :: entries => do
    let k ← expr s key
    let v ← expr s value
    let rest ← entryExprs s entries
    pure ((k, v) :: rest)

/-- The data of arguments, in order. -/
def argumentData (s : Scope) : List Argument → Eval Arguments
  | [] => pure ⟨[], []⟩
  | .positional e :: rest => do
    let d ← expr s e
    let others ← argumentData s rest
    pure ⟨d :: others.positional, others.named⟩
  | .named name e :: rest => do
    let d ← expr s e
    let others ← argumentData s rest
    pure ⟨others.positional, (name, d) :: others.named⟩
  | .spread e :: rest => do
    let d ← expr s e
    let others ← argumentData s rest
    let items ← spreadItems d
    pure ⟨items ++ others.positional, others.named⟩
  | .spreadNamed e :: rest => do
    let d ← expr s e
    let others ← argumentData s rest
    let entries ← spreadEntries d
    pure ⟨others.positional, entries ++ others.named⟩

/-- The types and defaults of parameters, in order. -/
def paramData (s : Scope) : List Param → Eval (List BoundParam)
  | [] => pure []
  | .mk kind name typeExpr fallback :: rest => do
    let type ← typeOption s typeExpr
    let d ← optionExpr s fallback
    let others ← paramData s rest
    pure (⟨kind, name, type, d⟩ :: others)

/-- What a comprehension collects: `last` for each way through its clauses.  The first source
stands in the scope `outer`, all else in `inner`. -/
def clauseData (outer inner : Scope) (last : Eval (List (Datum × Datum))) :
    List Clause → Eval (List (Datum × Datum))
  | [] => last
  | .forIn target source :: rest => do
    let d ← expr outer source
    overItems d (gather fun item => do
      beginRound
      assign inner target item
      clauseData inner inner last rest)
  | .keepIf condition :: rest => do
    let d ← expr inner condition
    if ← truth d then clauseData outer inner last rest else pure []

/-- Binds a datum to a target. -/
def assign (s : Scope) : Target → Datum → Eval Unit
  | .name n, d => assignName s n d
  | .attribute owner name, _ => do
    let o ← expr s owner
    fail (.unsupported ("." ++ name ++ "=") o.typeName)
  | .item owner index, d => do
    let o ← expr s owner
    let i ← expr s index
    setItem o i d
  | .unpack targets, d => do
    let items ← itemsOf d
    if items.length = targets.length then assignEach s targets items
    else fail (.unpackCount items.length targets.length)

/-- Binds data to targets one by one. -/
def assignEach (s : Scope) : List Target → List Datum → Eval Unit
  | t :: ts, d :: ds => do
    assign s t d
    assignEach s ts ds
  | _, _ => pure ()

end

/-! ### Statements -/

/-- Changes what a target is bound to by an operator. -/
def augment (s : Scope) (op : BinaryOp) (value : Expr) : Target → Eval Unit
  | .name n => do
    let old ← nameIn s n
    let d ← expr s value
    let new ← applyAugmented formatPercent op old d
    assignName s n new
  | .attribute owner name => do
    let o ← expr s owner
    let old ← attributeOf o name
    let d ← expr s value
    let _ ← applyAugmented formatPercent op old d
    fail (.unsupported ("." ++ name ++ "=") o.typeName)
  | .item owner index => do
    let o ← expr s owner
    let i ← expr s index
    let old ← itemAt o i
    let d ← expr s value
    let new ← applyAugmented formatPercent op old d
    setItem o i new
  | .unpack _ => pure ()

mutual

/-- A statement executed. -/
def stmt (s : Scope) : Stmt → Eval Flow
  | .expr e => do
    beginStatement
    let _ ← expr s e
    pure .next
  | .assign target typeExpr value => do
    beginStatement
    let d ← expr s value
    let type ← typeOption s typeExpr
    checkType type "return type" d
    assign s target d
    pure .next
  | .augment target op value => do
    beginStatement
    augment s op value target
    pure .next
  | .giveBack value => do
    beginStatement
    let d ← optionExpr s value
    pure (.giveBack (d.getD .none))
  | .leaveLoop => do
    beginStatement
    pure .leaveLoop
  | .nextRound => do
    beginStatement
    pure .nextRound
  | .pass => do
    beginStatement
    pure .next
  | .branch condition whenTrue whenFalse => do
    beginStatement
    let d ← expr s condition
    if ← truth d then block s whenTrue else block s whenFalse
  | .forIn target source body => do
    beginStatement
    let d ← expr s source
    forEach d fun item => do
      assign s target item
      block s body
  | .define name params result body => do
    beginStatement
    let bound ← paramData s params
    let type ← typeOption s result
    let locals := (paramNames params ++ boundNames body).eraseDups
    let a ← alloc (.function ⟨s.script, name, bound, type, .block body, locals, s.frame⟩)
    assignName s name (.function a)
    pure .next
  | .load file _ => do
    beginStatement
    fail (.noImports file)

/-- Statements executed, until one leaves the block. -/
def block (s : Scope) : List Stmt → Eval Flow
  | [] => pure .next
  | st :: rest => do
    match ← stmt s st with
    | .next => block s rest
    | flow => pure flow

end

/-! ### Calls -/

/-- The body of a function run in its frame. -/
def runBody (s : Scope) : FunctionBody → Eval Datum
  | .value e => expr s e
  | .block statements => do
    match ← block s statements with
    | .giveBack d => pure d
    | _ => pure .none

/-- A datum called, at most so many calls deep. -/
def callDatum : Nat → Caller
  | 0, _, _ => fail .callStackOverflow
  | depth + 1, d, args =>
    match d with
    | .builtin b => callBuiltin (callDatum depth) b args
    | .textMethod owner m => callTextMethod owner m args
    | .listMethod a m => callListMethod a m args
    | .dictMethod a m => callDictMethod a m args
    | .function a => do
      match ← read fun m => m.closure? a with
      | some c =>
        let frame ← openFrame c args
        let d ← runBody ⟨callDatum depth, c.script, frame⟩ c.body
        checkType c.result "return type" d
        pure d
      | none => fail (.unsupported "call()" d.typeName)
    | d => fail (.unsupported "call()" d.typeName)

/-- How many calls deep a script can go: there are fifty frames, and the script itself takes
the first. -/
def callDepth : Nat := 49

/-- The statements at the top of a script.  The answer is the datum of the last one if that
is an expression. -/
def script (s : Scope) : List Stmt → Eval (Option Datum)
  | [] => pure none
  | [.expr e] => do
    beginStatement
    let d ← expr s e
    pure (some d)
  | st :: rest => do
    let _ ← stmt s st
    script s rest

end Eval

end Lookout.Script
