/-
Where names are bound.

A name bound anywhere in a function, or anywhere at the top of a script, belongs to it
throughout.  A name that nothing binds is found before the script runs.
-/
import Lookout.Script.Syntax

namespace Lookout.Script

mutual

/-- The names that a target binds. -/
def Target.names : Target → List String
  | .name n => [n]
  | .unpack targets => targetNames targets
  | _ => []

/-- The names that targets bind. -/
def targetNames : List Target → List String
  | [] => []
  | t :: ts => t.names ++ targetNames ts

end

mutual

/-- The names that a statement binds, those in functions inside left aside. -/
def Stmt.names : Stmt → List String
  | .assign target _ _ => target.names
  | .augment target _ _ => target.names
  | .branch _ whenTrue whenFalse => boundNames whenTrue ++ boundNames whenFalse
  | .forIn target _ body => target.names ++ boundNames body
  | .define name _ _ _ => [name]
  | .load _ names => names
  | _ => []

/-- The names that statements bind. -/
def boundNames : List Stmt → List String
  | [] => []
  | s :: ss => s.names ++ boundNames ss

end

/-- The names that parameters bind. -/
def paramNames (params : List Param) : List String :=
  params.filterMap Param.name?

/-- The names that the clauses of a comprehension bind. -/
def clauseNames : List Clause → List String
  | [] => []
  | .forIn target _ :: clauses => target.names ++ clauseNames clauses
  | .keepIf _ :: clauses => clauseNames clauses

/-! ### Names that nothing binds -/

mutual

/-- The first name in an expression that is not among the known ones. -/
def Expr.unknown? (known : List String) : Expr → Option String
  | .name n => if known.contains n then none else some n
  | .int _ => none
  | .float _ => none
  | .string _ => none
  | .ellipsis => none
  | .tuple items => unknownExpr? known items
  | .list items => unknownExpr? known items
  | .dict entries => unknownEntries? known entries
  | .choice condition whenTrue whenFalse =>
    (condition.unknown? known).or ((whenTrue.unknown? known).or (whenFalse.unknown? known))
  | .negation operand => operand.unknown? known
  | .both left right => (left.unknown? known).or (right.unknown? known)
  | .either left right => (left.unknown? known).or (right.unknown? known)
  | .unary _ operand => operand.unknown? known
  | .binary _ left right => (left.unknown? known).or (right.unknown? known)
  | .call callee arguments => (callee.unknown? known).or (unknownArgument? known arguments)
  | .attribute owner _ => owner.unknown? known
  | .item owner index => (owner.unknown? known).or (index.unknown? known)
  | .itemPair owner first second =>
    (owner.unknown? known).or ((first.unknown? known).or (second.unknown? known))
  | .slice owner start stop step =>
    (owner.unknown? known).or ((unknownOption? known start).or
      ((unknownOption? known stop).or (unknownOption? known step)))
  | .lambda params body =>
    (unknownParam? known params).or (body.unknown? (paramNames params ++ known))
  | .listOf item clauses =>
    let inside := clauseNames clauses ++ known
    (unknownClause? known inside clauses).or (item.unknown? inside)
  | .dictOf key value clauses =>
    let inside := clauseNames clauses ++ known
    (unknownClause? known inside clauses).or ((key.unknown? inside).or (value.unknown? inside))

/-- The first unknown name in an expression that may be absent. -/
def unknownOption? (known : List String) : Option Expr → Option String
  | none => none
  | some e => e.unknown? known

/-- The first unknown name in expressions. -/
def unknownExpr? (known : List String) : List Expr → Option String
  | [] => none
  | e :: es => (e.unknown? known).or (unknownExpr? known es)

/-- The first unknown name in the entries of a dictionary. -/
def unknownEntries? (known : List String) : List (Expr × Expr) → Option String
  | [] => none
  | (key, value) :: entries =>
    (key.unknown? known).or ((value.unknown? known).or (unknownEntries? known entries))

/-- The first unknown name in arguments. -/
def unknownArgument? (known : List String) : List Argument → Option String
  | [] => none
  | .positional e :: rest => (e.unknown? known).or (unknownArgument? known rest)
  | .named _ e :: rest => (e.unknown? known).or (unknownArgument? known rest)
  | .spread e :: rest => (e.unknown? known).or (unknownArgument? known rest)
  | .spreadNamed e :: rest => (e.unknown? known).or (unknownArgument? known rest)

/-- The first unknown name in the types and defaults of parameters. -/
def unknownParam? (known : List String) : List Param → Option String
  | [] => none
  | .mk _ _ typeExpr fallback :: rest =>
    (unknownOption? known typeExpr).or
      ((unknownOption? known fallback).or (unknownParam? known rest))

/-- The first unknown name in clauses, where the names known to the next source differ from
those known inside. -/
def unknownClause? (known inside : List String) : List Clause → Option String
  | [] => none
  | .forIn target source :: rest =>
    (source.unknown? known).or ((target.unknown? inside).or (unknownClause? inside inside rest))
  | .keepIf condition :: rest =>
    (condition.unknown? inside).or (unknownClause? known inside rest)

/-- The first unknown name in a target; the names it binds are known. -/
def Target.unknown? (known : List String) : Target → Option String
  | .name _ => none
  | .attribute owner _ => owner.unknown? known
  | .item owner index => (owner.unknown? known).or (index.unknown? known)
  | .unpack targets => unknownTarget? known targets

/-- The first unknown name in targets. -/
def unknownTarget? (known : List String) : List Target → Option String
  | [] => none
  | t :: ts => (t.unknown? known).or (unknownTarget? known ts)

end

mutual

/-- The first name in a statement that is not among the known ones. -/
def Stmt.unknown? (known : List String) : Stmt → Option String
  | .expr e => e.unknown? known
  | .assign target typeExpr value =>
    (target.unknown? known).or ((unknownOption? known typeExpr).or (value.unknown? known))
  | .augment target _ value => (target.unknown? known).or (value.unknown? known)
  | .giveBack value => unknownOption? known value
  | .leaveLoop => none
  | .nextRound => none
  | .pass => none
  | .branch condition whenTrue whenFalse =>
    (condition.unknown? known).or
      ((unknownStmt? known whenTrue).or (unknownStmt? known whenFalse))
  | .forIn target source body =>
    (source.unknown? known).or ((target.unknown? known).or (unknownStmt? known body))
  | .define _ params result body =>
    (unknownParam? known params).or ((unknownOption? known result).or
      (unknownStmt? (paramNames params ++ boundNames body ++ known) body))
  | .load _ _ => none

/-- The first unknown name in statements. -/
def unknownStmt? (known : List String) : List Stmt → Option String
  | [] => none
  | s :: ss => (s.unknown? known).or (unknownStmt? known ss)

end

end Lookout.Script
