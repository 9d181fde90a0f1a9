/-
The syntax of condition scripts.

A script is a list of statements.  Names stand for themselves: which frame a name belongs to
follows from where it is bound, and is found out when it is used.
-/

namespace Lookout.Script

/-- Operators with one operand, besides `not`. -/
inductive UnaryOp where
  | plus | minus | invert
deriving DecidableEq, Repr

/-- Operators with two operands, besides `and` and `or`. -/
inductive BinaryOp where
  | equal | notEqual | less | greater | atMost | atLeast
  | isIn | notIn
  | add | sub | mul | div | floorDiv | percent
  | bitAnd | bitOr | bitXor | shiftLeft | shiftRight
deriving DecidableEq, Repr

/-- What a parameter takes. -/
inductive ParamKind where
  /-- One argument, by position or by name. -/
  | plain
  /-- The positional arguments left over. -/
  | rest
  /-- The named arguments left over. -/
  | restNamed
  /-- A lone star: what follows is given by name only. -/
  | star
  /-- A lone slash: what came before is given by position only. -/
  | slash
deriving DecidableEq, Repr

mutual

/-- An expression. -/
inductive Expr where
  | name (name : String)
  | int (n : Int)
  | float (x : Float)
  | string (s : String)
  | ellipsis
  | tuple (items : List Expr)
  | list (items : List Expr)
  | dict (entries : List (Expr × Expr))
  | choice (condition whenTrue whenFalse : Expr)
  | negation (operand : Expr)
  | both (left right : Expr)
  | either (left right : Expr)
  | unary (op : UnaryOp) (operand : Expr)
  | binary (op : BinaryOp) (left right : Expr)
  | call (callee : Expr) (arguments : List Argument)
  | attribute (owner : Expr) (name : String)
  | item (owner index : Expr)
  | itemPair (owner first second : Expr)
  | slice (owner : Expr) (start stop step : Option Expr)
  | lambda (params : List Param) (body : Expr)
  | listOf (item : Expr) (clauses : List Clause)
  | dictOf (key value : Expr) (clauses : List Clause)

/-- An argument of a call. -/
inductive Argument where
  | positional (e : Expr)
  | named (name : String) (e : Expr)
  /-- `*e` -/
  | spread (e : Expr)
  /-- `**e` -/
  | spreadNamed (e : Expr)

/-- A parameter of a function. -/
inductive Param where
  | mk (kind : ParamKind) (name : String) (typeExpr fallback : Option Expr)

/-- A clause of a comprehension. -/
inductive Clause where
  | forIn (target : Target) (source : Expr)
  | keepIf (condition : Expr)

/-- What an assignment binds. -/
inductive Target where
  | name (name : String)
  | attribute (owner : Expr) (name : String)
  | item (owner index : Expr)
  | unpack (targets : List Target)

end

instance : Inhabited Expr := ⟨.ellipsis⟩
instance : Inhabited Target := ⟨.unpack []⟩

/-- The name of a parameter; nothing for a lone star or slash. -/
def Param.name? : Param → Option String
  | .mk .star _ _ _ => none
  | .mk .slash _ _ _ => none
  | .mk _ name _ _ => some name

/-- A statement. -/
inductive Stmt where
  | expr (e : Expr)
  | assign (target : Target) (typeExpr : Option Expr) (value : Expr)
  | augment (target : Target) (op : BinaryOp) (value : Expr)
  | giveBack (value : Option Expr)
  | leaveLoop
  | nextRound
  | pass
  | branch (condition : Expr) (whenTrue whenFalse : List Stmt)
  | forIn (target : Target) (source : Expr) (body : List Stmt)
  | define (name : String) (params : List Param) (result : Option Expr) (body : List Stmt)
  | load (file : String) (names : List String)

instance : Inhabited Stmt := ⟨.pass⟩

end Lookout.Script
