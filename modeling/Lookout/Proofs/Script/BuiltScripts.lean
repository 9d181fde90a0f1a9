/-
Calls, expressions and statements, as steps of evaluation; and with them whole scripts.

The induction is on the syntax tree, as the evaluation is a recursion on it.  A call is an
induction on how many calls deep it may go.
-/
import Lookout.Proofs.Script.BuiltBuiltins
import Lookout.Script.Interpreter

namespace Lookout.Script.Built

/-! ### Parameters of a call -/

theorem checkType (type : Option TypeSpec) (place : String) (d : Datum) :
    Built (Eval.checkType type place d) := by
  cases type with
  | none => exact .pure _
  | some t =>
      refine .look (fun m => .ite (.pure _) (.fail _)) fun m c b => ?_
      rw [accepts_withClock, withClock_plainText]

theorem checkTypes (type : Option TypeSpec) (place : String) :
    ∀ ds : List Datum, Built (Eval.checkTypes type place ds) := by
  intro ds
  induction ds with
  | nil => exact .pure _
  | cons d ds ih => exact .bind (.checkType _ _ _) fun _ => ih

theorem bindParams (a : Assigned) :
    ∀ params : List BoundParam, Built (Eval.bindParams a params) := by
  intro params
  induction params with
  | nil => exact .pure _
  | cons p ps ih =>
      unfold Eval.bindParams
      dsimp only
      split
      · exact .bind (.checkType _ _ _) fun _ => .map ih _
      · exact .bind (.checkTypes _ _ _) fun _ => .map ih _
      · exact .bind (.checkTypes _ _ _) fun _ => .bind (.newDict _) fun _ => .map ih _
      · exact ih

theorem openFrame (c : Closure) (args : Arguments) : Built (Eval.openFrame c args) := by
  refine .bind (.ofExcept _) fun assigned => ?_
  split
  · exact .fail _
  · exact .fail _
  · split
    · exact .fail _
    · exact .bind (.bindParams _ _) fun _ => .alloc _

/-! ### Names and types -/

theorem nameIn (s : Scope) (name : String) : Built (Eval.nameIn s name) :=
  .readOr fun m c b => withClock_named m c b _ name

theorem typeOf (s : Scope) : ∀ e : Expr, Built (Eval.typeOf s e) := by
  intro e
  fun_induction Eval.typeOf s e with
  | case1 n =>
      refine .bind (.nameIn _ _) fun d => ?_
      split
      · exact .pure _
      · exact .bind (.shown _) fun _ => .fail _
  | case2 a b iha ihb => exact .bind iha fun _ => .map ihb _
  | case3 n index ih =>
      refine .bind (.nameIn _ _) fun d => .bind ih fun _ => ?_
      split
      · exact .pure _
      · exact .pure _
      · exact .bind (.shown _) fun _ => .fail _
  | case4 n first ih =>
      refine .bind (.nameIn _ _) fun d => .bind ih fun _ => ?_
      split
      · exact .pure _
      · exact .bind (.shown _) fun _ => .fail _
  | case5 n first second _ ih₁ ih₂ =>
      refine .bind (.nameIn _ _) fun d => .bind ih₁ fun _ => .bind ih₂ fun _ => ?_
      split
      · exact .pure _
      · exact .pure _
      · exact .bind (.shown _) fun _ => .fail _
  | case6 => exact .fail _

theorem typeOption (s : Scope) : ∀ e : Option Expr, Built (Eval.typeOption s e)
  | none => .pure _
  | some e => .map (.typeOf s e) _

theorem assignName (s : Scope) (name : String) (d : Datum) : Built (Eval.assignName s name d) :=
  .change _ (.assign name d)

/-! ### Parts of expressions -/

theorem dictOfDistinct (a : Addr) :
    ∀ entries : List (Datum × Datum), Built (Eval.dictOfDistinct a entries) := by
  intro entries
  induction entries with
  | nil => exact .pure _
  | cons e rest ih =>
      refine .bind (.lookup _ _) fun found => ?_
      cases found with
      | some d => exact .bind (.shown _) fun _ => .fail _
      | none => exact .bind (.enterKey _ _ _) fun _ => ih

theorem spreadItems (d : Datum) : Built (Eval.spreadItems d) := by
  refine .look (fun m => ?_) fun m c b => ?_
  · split
    · exact .pure _
    · exact .fail _
  · rw [withClock_itemsOf]

theorem spreadNames :
    ∀ entries : List (Datum × Datum), Built (Eval.spreadNames entries) := by
  intro entries
  fun_induction Eval.spreadNames entries with
  | case1 => exact .pure _
  | case2 name d rest ih => exact .map ih _
  | case3 => exact .fail _

theorem spreadEntries (d : Datum) : Built (Eval.spreadEntries d) := by
  cases d with
  | dict a => exact .bind (.readEntries _) fun _ => .spreadNames _
  | _ => exact .fail _

theorem attributeOf (d : Datum) (name : String) : Built (Eval.attributeOf d name) := by
  unfold Eval.attributeOf
  split
  · exact .pure _
  · exact .fail _

theorem gather {α : Type} {step : Datum → Eval (List α)} (hs : ∀ d, Built (step d)) :
    ∀ ds : List Datum, Built (Eval.gather step ds) := by
  intro ds
  induction ds with
  | nil => exact .pure _
  | cons d ds ih => exact .bind (hs d) fun _ => .map ih _

/-! ### Expressions -/

/-- A place where each call is a step of evaluation. -/
def Sound (s : Scope) : Prop :=
  ∀ d args, Built (s.call d args)

mutual

theorem expr {s : Scope} (hs : Sound s) : ∀ e : Expr, Built (Eval.expr s e)
  | .name n => .nameIn s n
  | .int _ => .pure _
  | .float _ => .pure _
  | .string _ => .pure _
  | .ellipsis => .pure _
  | .tuple items => .map (exprs hs items) _
  | .list items => .bind (exprs hs items) fun _ => .newList _
  | .dict entries =>
      .bind (entryExprs hs entries) fun _ => .bind (.alloc _) fun _ =>
        .map (.dictOfDistinct _ _) _
  | .choice condition whenTrue whenFalse =>
      .bind (expr hs condition) fun _ => .branch _ (expr hs whenTrue) (expr hs whenFalse)
  | .negation operand => .bind (expr hs operand) fun _ => .map (.truth _) _
  | .both left right => .bind (expr hs left) fun _ => .branch _ (expr hs right) (.pure _)
  | .either left right => .bind (expr hs left) fun _ => .branch _ (.pure _) (expr hs right)
  | .unary _ operand => .bind (expr hs operand) fun _ => .ofExcept _
  | .binary _ left right =>
      .bind (expr hs left) fun _ => .bind (expr hs right) fun _ =>
        .applyBinary .formatPercent _ _ _
  | .call callee arguments =>
      .bind (expr hs callee) fun _ => .bind (argumentData hs arguments) fun _ => hs _ _
  | .attribute owner _ => .bind (expr hs owner) fun _ => .attributeOf _ _
  | .item owner index =>
      .bind (expr hs owner) fun _ => .bind (expr hs index) fun _ => .itemAt _ _
  | .itemPair owner first second =>
      .bind (expr hs owner) fun _ => .bind (expr hs first) fun _ =>
        .bind (expr hs second) fun _ => .fail _
  | .slice owner start stop step =>
      .bind (expr hs owner) fun _ => .bind (optionExpr hs start) fun _ =>
        .bind (optionExpr hs stop) fun _ => .bind (optionExpr hs step) fun _ =>
        .sliceOf _ _ _ _
  | .lambda params _ => .bind (paramData hs params) fun _ => .map (.alloc _) _
  | .listOf item clauses =>
      .bind (.alloc _) fun frame =>
        have hi : Sound (s.within frame) := hs
        .bind (clauseData hs hi (.map (expr hi item) _) clauses) fun _ => .newList _
  | .dictOf key value clauses =>
      .bind (.alloc _) fun frame => .bind (.alloc _) fun _ =>
        have hi : Sound (s.within frame) := hs
        .map (clauseData hs hi (.bind (expr hi key) fun _ => .bind (expr hi value) fun _ =>
          .map (.enterKey _ _ _) _) clauses) _

theorem optionExpr {s : Scope} (hs : Sound s) :
    ∀ e : Option Expr, Built (Eval.optionExpr s e)
  | none => .pure _
  | some e => .map (expr hs e) _

theorem exprs {s : Scope} (hs : Sound s) : ∀ es : List Expr, Built (Eval.exprs s es)
  | [] => .pure _
  | e :: es => .bind (expr hs e) fun _ => .map (exprs hs es) _

theorem entryExprs {s : Scope} (hs : Sound s) :
    ∀ es : List (Expr × Expr), Built (Eval.entryExprs s es)
  | [] => .pure _
  | (key, value) :: es =>
      .bind (expr hs key) fun _ => .bind (expr hs value) fun _ => .map (entryExprs hs es) _

theorem argumentData {s : Scope} (hs : Sound s) :
    ∀ args : List Argument, Built (Eval.argumentData s args)
  | [] => .pure _
  | .positional e :: rest => .bind (expr hs e) fun _ => .map (argumentData hs rest) _
  | .named _ e :: rest => .bind (expr hs e) fun _ => .map (argumentData hs rest) _
  | .spread e :: rest =>
      .bind (expr hs e) fun _ => .bind (argumentData hs rest) fun _ => .map (.spreadItems _) _
  | .spreadNamed e :: rest =>
      .bind (expr hs e) fun _ => .bind (argumentData hs rest) fun _ => .map (.spreadEntries _) _

theorem paramData {s : Scope} (hs : Sound s) :
    ∀ params : List Param, Built (Eval.paramData s params)
  | [] => .pure _
  | .mk _ _ type fallback :: rest =>
      .bind (.typeOption s type) fun _ => .bind (optionExpr hs fallback) fun _ =>
        .map (paramData hs rest) _

theorem clauseData {outer inner : Scope} (ho : Sound outer) (hi : Sound inner)
    {last : Eval (List (Datum × Datum))} (hl : Built last) :
    ∀ clauses : List Clause, Built (Eval.clauseData outer inner last clauses)
  | [] => hl
  | .forIn target source :: rest =>
      .bind (expr ho source) fun _ => .overItems _ (.gather fun _ =>
        .bind .beginRound fun _ => .bind (assign hi target _) fun _ => clauseData hi hi hl rest)
  | .keepIf condition :: rest =>
      .bind (expr hi condition) fun _ => .branch _ (clauseData ho hi hl rest) (.pure _)

theorem assign {s : Scope} (hs : Sound s) :
    ∀ (target : Target) (d : Datum), Built (Eval.assign s target d)
  | .name n, d => .assignName s n d
  | .attribute owner _, _ => .bind (expr hs owner) fun _ => .fail _
  | .item owner index, _ =>
      .bind (expr hs owner) fun _ => .bind (expr hs index) fun _ => .setItem _ _ _
  | .unpack targets, _ =>
      .bind (.itemsOf _) fun _ => .ite (assignEach hs targets _) (.fail _)

theorem assignEach {s : Scope} (hs : Sound s) :
    ∀ (targets : List Target) (ds : List Datum), Built (Eval.assignEach s targets ds)
  | [], _ => .pure _
  | _ :: _, [] => .pure _
  | t :: ts, d :: ds => .bind (assign hs t d) fun _ => assignEach hs ts ds

end

/-! ### Statements -/

theorem augment {s : Scope} (hs : Sound s) (op : BinaryOp) (value : Expr) :
    ∀ target : Target, Built (Eval.augment s op value target)
  | .name _ =>
      .bind (.nameIn _ _) fun _ => .bind (expr hs value) fun _ =>
        .bind (.applyAugmented .formatPercent _ _ _) fun _ => .assignName _ _ _
  | .attribute owner _ =>
      .bind (expr hs owner) fun _ => .bind (.attributeOf _ _) fun _ =>
        .bind (expr hs value) fun _ => .bind (.applyAugmented .formatPercent _ _ _) fun _ =>
        .fail _
  | .item owner index =>
      .bind (expr hs owner) fun _ => .bind (expr hs index) fun _ => .bind (.itemAt _ _) fun _ =>
        .bind (expr hs value) fun _ => .bind (.applyAugmented .formatPercent _ _ _) fun _ =>
        .setItem _ _ _
  | .unpack _ => .pure _

mutual

theorem stmt {s : Scope} (hs : Sound s) : ∀ st : Stmt, Built (Eval.stmt s st)
  | .expr e => .bind .beginStatement fun _ => .map (expr hs e) _
  | .assign target type value =>
      .bind .beginStatement fun _ => .bind (expr hs value) fun _ =>
        .bind (.typeOption s type) fun _ => .bind (.checkType _ _ _) fun _ =>
        .map (assign hs target _) _
  | .augment target op value =>
      .bind .beginStatement fun _ => .map (augment hs op value target) _
  | .giveBack value => .bind .beginStatement fun _ => .map (optionExpr hs value) _
  | .leaveLoop => .map .beginStatement _
  | .nextRound => .map .beginStatement _
  | .pass => .map .beginStatement _
  | .branch condition whenTrue whenFalse =>
      .bind .beginStatement fun _ => .bind (expr hs condition) fun _ =>
        .branch _ (block hs whenTrue) (block hs whenFalse)
  | .forIn target source body =>
      .bind .beginStatement fun _ => .bind (expr hs source) fun _ =>
        .forEach _ fun _ => .bind (assign hs target _) fun _ => block hs body
  | .define _ params result _ =>
      .bind .beginStatement fun _ => .bind (paramData hs params) fun _ =>
        .bind (.typeOption s result) fun _ => .bind (.alloc _) fun _ =>
        .map (.assignName _ _ _) _
  | .load _ _ => .bind .beginStatement fun _ => .fail _

theorem block {s : Scope} (hs : Sound s) : ∀ sts : List Stmt, Built (Eval.block s sts)
  | [] => .pure _
  | st :: rest => by
      refine .bind (stmt hs st) fun flow => ?_
      cases flow with
      | next => exact block hs rest
      | _ => exact .pure _

end

/-! ### Calls and scripts -/

theorem runBody {s : Scope} (hs : Sound s) : ∀ body : FunctionBody, Built (Eval.runBody s body)
  | .value e => expr hs e
  | .block statements => by
      refine .bind (block hs statements) fun flow => ?_
      cases flow with
      | giveBack d => exact .pure _
      | _ => exact .pure _

theorem callDatum (depth : Nat) : ∀ d args, Built (Eval.callDatum depth d args) := by
  induction depth with
  | zero => exact fun _ _ => .fail _
  | succ depth ih =>
      intro d args
      cases d with
      | builtin b => exact .callBuiltin ih b args
      | textMethod owner m => exact .callTextMethod owner m args
      | listMethod a m => exact .callListMethod a m args
      | dictMethod a m => exact .callDictMethod a m args
      | function a =>
          refine .bind (.read fun _ _ _ => rfl) fun found => ?_
          cases found with
          | none => exact .fail _
          | some c =>
              have hs : ∀ frame, Sound ⟨Eval.callDatum depth, c.script, frame⟩ := fun _ => ih
              exact .bind (.openFrame c args) fun frame => .bind (runBody (hs frame) c.body)
                fun _ => .map (.checkType _ _ _) _
      | _ => exact .fail _

theorem script {s : Scope} (hs : Sound s) : ∀ sts : List Stmt, Built (Eval.script s sts) := by
  intro sts
  fun_induction Eval.script s sts with
  | case1 => exact .pure _
  | case2 e => exact .bind .beginStatement fun _ => .map (expr hs e) _
  | case3 st rest _ ih => exact .bind (stmt hs st) fun _ => ih

theorem runTop (name : String) (given : List (String × Datum)) (statements : List Stmt) :
    Built (Script.runTop name given statements) := by
  have hs : ∀ frame, Sound ⟨Eval.callDatum Eval.callDepth, name, frame⟩ :=
    fun _ => callDatum _
  exact .bind (.alloc _) fun frame => .map (script (hs frame) statements) _

theorem condition (i : Interpreter) (context : AlertContext) (statements : List Stmt) :
    Built (i.condition context statements) :=
  .bind (.ofValue _ _) fun _ => .runTop _ _ _

end Lookout.Script.Built
