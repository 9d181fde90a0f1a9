/-
Forms that the grammar lets through but that make no sense where they stand: a `return`
outside a function, a `break` outside a loop, parameters in an impossible order.

The first such form of a script is its fault.
-/
import Lookout.Script.Grammar

namespace Lookout.Script

/-! ### Parameters -/

/-- How far a list of parameters has come. -/
structure ParamStage where
  names : List String
  /-- A parameter with a default was seen. -/
  fallback : Bool
  /-- A star was seen, with or without a name. -/
  star : Bool
  /-- A double star was seen. -/
  doubleStar : Bool
  /-- No parameter was seen yet. -/
  first : Bool

namespace ParamStage

/-- The stage at the beginning of a list. -/
def start : ParamStage :=
  ⟨[], false, false, false, true⟩

/-- The fault in the next parameter, given those behind it. -/
def fault? (stage : ParamStage) (param : Param) (behind : List Param) : Option SyntaxFault :=
  let repeated := match param.name? with
    | some name => stage.names.contains name
    | none => false
  if repeated then some .duplicateParam
  else
    match param with
    | .mk .plain _ _ none =>
      if stage.doubleStar || (stage.fallback && !stage.star) then some .plainAfterFallback else none
    | .mk .plain _ _ (some _) => if stage.doubleStar then some .afterRestNamed else none
    | .mk .rest _ _ _ => if stage.star || stage.doubleStar then some .restAfterRest else none
    | .mk .star _ _ _ =>
      if stage.star || stage.doubleStar then some .restAfterRest
      else
        match behind with
        | .mk .plain _ _ _ :: _ => none
        | _ => some .lonelyStar
    | .mk .restNamed _ _ _ => if stage.doubleStar then some .restNamedTwice else none
    | .mk .slash _ _ _ => if stage.first then some .misplacedSlash else none

/-- The stage behind a parameter. -/
def after (stage : ParamStage) : Param → ParamStage
  | .mk kind name _ fallback =>
    { names := match kind with
        | .star => stage.names
        | .slash => stage.names
        | _ => name :: stage.names
      fallback := stage.fallback || fallback.isSome
      star := stage.star || kind = .rest || kind = .star
      doubleStar := stage.doubleStar || kind = .restNamed
      first := false }

end ParamStage

/-- The first fault in a list of parameters. -/
def paramsFault (stage : ParamStage) : List Param → Option SyntaxFault
  | [] => none
  | param :: behind =>
    match stage.fault? param behind with
    | some fault => some fault
    | none => paramsFault (stage.after param) behind

/-! ### Expressions -/

mutual

/-- The first fault in an expression: only functions in it can have one. -/
def Expr.fault? : Expr → Option SyntaxFault
  | .name _ => none
  | .int _ => none
  | .float _ => none
  | .string _ => none
  | .ellipsis => none
  | .tuple items => exprsFault items
  | .list items => exprsFault items
  | .dict entries => entriesFault entries
  | .choice c a b => c.fault?.or (a.fault?.or b.fault?)
  | .negation e => e.fault?
  | .both a b => a.fault?.or b.fault?
  | .either a b => a.fault?.or b.fault?
  | .unary _ e => e.fault?
  | .binary _ a b => a.fault?.or b.fault?
  | .call f arguments => f.fault?.or (argumentsFault arguments)
  | .attribute e _ => e.fault?
  | .item e i => e.fault?.or i.fault?
  | .itemPair e i j => e.fault?.or (i.fault?.or j.fault?)
  | .slice e a b c => e.fault?.or ((optionFault a).or ((optionFault b).or (optionFault c)))
  | .lambda params body => (paramsFault .start params).or ((fallbacksFault params).or body.fault?)
  | .listOf e clauses => (clausesFault clauses).or e.fault?
  | .dictOf k v clauses => (clausesFault clauses).or (k.fault?.or v.fault?)

/-- The first fault in an expression that may be left out. -/
def optionFault : Option Expr → Option SyntaxFault
  | none => none
  | some e => e.fault?

/-- The first fault in a list of expressions. -/
def exprsFault : List Expr → Option SyntaxFault
  | [] => none
  | e :: es => e.fault?.or (exprsFault es)

/-- The first fault in the entries of a dictionary. -/
def entriesFault : List (Expr × Expr) → Option SyntaxFault
  | [] => none
  | (k, v) :: es => k.fault?.or (v.fault?.or (entriesFault es))

/-- The first fault in the arguments of a call. -/
def argumentsFault : List Argument → Option SyntaxFault
  | [] => none
  | .positional e :: rest => e.fault?.or (argumentsFault rest)
  | .named _ e :: rest => e.fault?.or (argumentsFault rest)
  | .spread e :: rest => e.fault?.or (argumentsFault rest)
  | .spreadNamed e :: rest => e.fault?.or (argumentsFault rest)

/-- The first fault in the annotations and defaults of parameters. -/
def fallbacksFault : List Param → Option SyntaxFault
  | [] => none
  | .mk _ _ typeExpr fallback :: rest =>
    (optionFault typeExpr).or ((optionFault fallback).or (fallbacksFault rest))

/-- The first fault in the clauses of a comprehension. -/
def clausesFault : List Clause → Option SyntaxFault
  | [] => none
  | .forIn target source :: rest => target.fault?.or (source.fault?.or (clausesFault rest))
  | .keepIf e :: rest => e.fault?.or (clausesFault rest)

/-- The first fault in a target. -/
def Target.fault? : Target → Option SyntaxFault
  | .name _ => none
  | .attribute e _ => e.fault?
  | .item e i => e.fault?.or i.fault?
  | .unpack targets => targetsFault targets

/-- The first fault in a list of targets. -/
def targetsFault : List Target → Option SyntaxFault
  | [] => none
  | t :: ts => t.fault?.or (targetsFault ts)

end

/-! ### Statements -/

/-- Where a statement stands. -/
structure Placement where
  top : Bool
  inLoop : Bool
  inFunction : Bool

mutual

/-- The first fault in a statement. -/
def Stmt.fault? (place : Placement) : Stmt → Option SyntaxFault
  | .expr e => e.fault?
  | .assign target typeExpr value =>
    target.fault?.or ((optionFault typeExpr).or value.fault?)
  | .augment target _ value => target.fault?.or value.fault?
  | .giveBack value =>
    if place.inFunction then optionFault value else some .returnOutside
  | .leaveLoop => if place.inLoop then none else some .breakOutside
  | .nextRound => if place.inLoop then none else some .continueOutside
  | .pass => none
  | .branch condition whenTrue whenFalse =>
    condition.fault?.or
      ((stmtsFault { place with top := false } whenTrue).or
        (stmtsFault { place with top := false } whenFalse))
  | .forIn target source body =>
    target.fault?.or (source.fault?.or
      (stmtsFault { place with top := false, inLoop := true } body))
  | .define _ params result body =>
    (paramsFault .start params).or ((fallbacksFault params).or ((optionFault result).or
      (stmtsFault ⟨false, false, true⟩ body)))
  | .load _ _ => if place.top then none else some .loadInside

/-- The first fault in a list of statements. -/
def stmtsFault (place : Placement) : List Stmt → Option SyntaxFault
  | [] => none
  | s :: ss => (s.fault? place).or (stmtsFault place ss)

end

/-- The statements of a script, or what is wrong with its text. -/
def parse (source : String) : Except SyntaxFault (List Stmt) :=
  match Lexeme.ofText? source with
  | none => .error .unreadable
  | some lexemes =>
    match readProgram lexemes with
    | .error fault => .error fault
    | .ok body =>
      match stmtsFault ⟨true, false, false⟩ body with
      | some fault => .error fault
      | none => .ok body

end Lookout.Script
