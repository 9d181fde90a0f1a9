/-
Going through data, taking parts of them, operators, arguments, and texts made from patterns,
as steps of evaluation.

Each theorem follows its function: what is bound there one after the other is bound here in the
same order, and each case there is a case here.
-/
import Lookout.Proofs.Script.Built

namespace Lookout.Script.Built

variable {α β : Type}

/-! ### Branches -/

theorem ite {p : Prop} [Decidable p] {a b : Eval α} (ha : Built a) (hb : Built b) :
    Built (if p then a else b) := by
  split
  · exact ha
  · exact hb

theorem branch (d : Datum) {a b : Eval α} (ha : Built a) (hb : Built b) :
    Built (do if ← Eval.truth d then a else b) :=
  .bind (.truth d) fun _ => .ite ha hb

/-! ### Going through -/

theorem countRounds (step : Int) {round : Datum → Eval Flow} (hr : ∀ d, Built (round d)) :
    ∀ (rounds : Nat) (n : Int), Built (Script.countRounds step round rounds n) := by
  intro rounds
  induction rounds with
  | zero => exact fun _ => .pure _
  | succ rounds ih =>
      intro n
      refine .bind (hr _) fun flow => ?_
      cases flow with
      | leaveLoop => exact .pure _
      | giveBack d => exact .pure _
      | next => exact ih _
      | nextRound => exact ih _

theorem itemRounds {round : Datum → Eval Flow} (hr : ∀ d, Built (round d)) :
    ∀ items : List Datum, Built (Script.itemRounds round items) := by
  intro items
  induction items with
  | nil => exact .pure _
  | cons d ds ih =>
      refine .bind (hr d) fun flow => ?_
      cases flow with
      | leaveLoop => exact .pure _
      | giveBack d => exact .pure _
      | next => exact ih
      | nextRound => exact ih

theorem forEach (source : Datum) {round : Datum → Eval Flow} (hr : ∀ d, Built (round d)) :
    Built (Eval.forEach source round) := by
  unfold Eval.forEach
  split
  · exact .countRounds _ hr _ _
  · exact .bind (.itemsOf _) fun _ => .reading _ (.itemRounds hr _)
  · exact .bind (.itemsOf _) fun _ => .reading _ (.itemRounds hr _)
  · exact .bind (.itemsOf _) fun _ => .itemRounds hr _

/-! ### Positions -/

theorem itemAt (owner index : Datum) : Built (Eval.itemAt owner index) := by
  cases owner with
  | list a =>
      exact .bind (.indexOf _) fun _ => .bind (.readItems _) fun _ => .map (.ofExcept _) _
  | tuple items => exact .bind (.indexOf _) fun _ => .map (.ofExcept _) _
  | string s => exact .bind (.indexOf _) fun _ => .map (.ofExcept _) _
  | range start stop step => exact .bind (.indexOf _) fun _ => .map (.ofExcept _) _
  | dict a =>
      refine .bind (.lookup _ _) fun found => ?_
      cases found with
      | some d => exact .pure _
      | none => exact .bind (.shown _) fun _ => .fail _
  | _ => exact .fail _

theorem setItem (owner index value : Datum) : Built (Eval.setItem owner index value) := by
  cases owner with
  | list a =>
      refine .look (fun m => .ite (.fail _) ?_) fun m c b => rfl
      exact .bind (.indexOf _) fun _ => .bind (.read fun _ _ _ => rfl) fun _ =>
        .bind (.ofExcept _) fun _ => .changeItems _ _
  | dict a => exact .look (fun m => .ite (.fail _) (.enterKey _ _ _)) fun m c b => rfl
  | _ => exact .fail _

theorem sliceOf (owner : Datum) (start stop step : Option Datum) :
    Built (Eval.sliceOf owner start stop step) := by
  cases owner with
  | range first last by_ => exact .bind (.sliceBounds _ _ _ _) fun _ => .pure _
  | list a =>
      exact .bind (.readItems _) fun _ => .bind (.sliceBounds _ _ _ _) fun _ =>
        .ite .died (.newList _)
  | tuple items => exact .bind (.sliceBounds _ _ _ _) fun _ => .ite .died (.pure _)
  | string text => exact .bind (.sliceBounds _ _ _ _) fun _ => .ite .died (.pure _)
  | _ => exact .fail _

/-! ### Operators -/

theorem add (x y : Datum) : Built (Eval.add x y) := by
  unfold Eval.add
  split
  · exact .pure _
  · exact .pure _
  · exact .bind (.read fun _ _ _ => rfl) fun _ => .bind (.read fun _ _ _ => rfl) fun _ =>
      .newList _
  · exact .ofExcept _

theorem repeated (d : Datum) (n : Int) {otherwise : Eval Datum} (ho : Built otherwise) :
    Built ((Eval.repeated? d n).getD otherwise) := by
  cases d with
  | string s => exact .pure _
  | tuple items => exact .pure _
  | list a => exact .bind (.read fun _ _ _ => rfl) fun _ => .newList _
  | _ => exact ho

theorem mul (x y : Datum) : Built (Eval.mul x y) := by
  unfold Eval.mul
  split
  · exact .repeated _ _ (.ofExcept _)
  · exact .repeated _ _ (.ofExcept _)
  · exact .ofExcept _

theorem readEntered (x y : Addr) :
    Built (Eval.readOr fun m => m.entered (m.entries x) (m.entries y)) :=
  .readOr fun m c b => withClock_entered m c b _ _

theorem bitOr (x y : Datum) : Built (Eval.bitOr x y) := by
  unfold Eval.bitOr
  split
  · exact .bind (.readEntered _ _) fun _ => .newDict _
  · exact .ofExcept _

theorem contains (item whole : Datum) : Built (Eval.readOr fun m => m.contains item whole) :=
  .readOr fun m c b => withClock_contains m c b item whole

theorem applyBinary {format : String → Datum → Eval Datum} (hf : ∀ s d, Built (format s d))
    (op : BinaryOp) (x y : Datum) : Built (Eval.applyBinary format op x y) := by
  cases op with
  | equal => exact .map (.equal _ _) _
  | notEqual => exact .map (.equal _ _) _
  | isIn => exact .map (.contains _ _) _
  | notIn => exact .map (.contains _ _) _
  | add => exact .add _ _
  | mul => exact .mul _ _
  | bitOr => exact .bitOr _ _
  | percent =>
      simp only [Eval.applyBinary]
      split
      · exact hf _ _
      · exact .ofExcept _
  | less => exact .map (.compare _ _) _
  | greater => exact .map (.compare _ _) _
  | atMost => exact .map (.compare _ _) _
  | atLeast => exact .map (.compare _ _) _
  | _ => exact .ofExcept _

theorem extendList (a : Addr) (source : Datum) : Built (Eval.extendList a source) :=
  .bind (.checkMutable _) fun _ => .bind (.itemsOf _) fun _ => .changeItems _ _

theorem applyAugmented {format : String → Datum → Eval Datum} (hf : ∀ s d, Built (format s d))
    (op : BinaryOp) (x y : Datum) : Built (Eval.applyAugmented format op x y) := by
  unfold Eval.applyAugmented
  split
  · exact .map (.extendList _ _) _
  · refine .bind (.checkMutable _) fun _ => ?_
    split
    · exact .bind (.readEntered _ _) fun _ => .map (.changeEntries _ _) _
    · exact .fail _
  · exact .applyBinary hf _ _ _

/-! ### Arguments -/

theorem positionalOnly (args : Arguments) (least most : Nat) :
    Built (Eval.positionalOnly args least most) :=
  .ite (.fail _) (.ite (.pure _) (.fail _))

theorem wrongParam (param expected : String) (d : Datum) :
    Built (Eval.wrongParam param expected d : Eval α) :=
  .bind (.shown _) fun _ => .fail _

theorem textParam (param : String) (d : Datum) : Built (Eval.textParam param d) := by
  cases d with
  | string s => exact .pure _
  | _ => exact .wrongParam _ _ _

theorem intParam (param expected : String) (d : Datum) :
    Built (Eval.intParam param expected d) := by
  cases d with
  | int n => exact .ite (.pure _) (.fail _)
  | _ => exact .wrongParam _ _ _

theorem boolParam (param : String) (d : Datum) : Built (Eval.boolParam param d) := by
  cases d with
  | bool b => exact .pure _
  | _ => exact .wrongParam _ _ _

theorem optionalParam {read : Datum → Eval α} (hr : ∀ d, Built (read d)) :
    ∀ given : Option Datum, Built (Eval.optionalParam read given)
  | none => .pure _
  | some d => .map (hr d) _

theorem maybeParam {read : Datum → Eval α} (hr : ∀ d, Built (read d)) (given : Option Datum) :
    Built (Eval.maybeParam read given) := by
  unfold Eval.maybeParam
  split
  · exact .pure _
  · exact .pure _
  · exact .map (hr _) _

theorem maybeText (param : String) (given : Option Datum) :
    Built (Eval.maybeText param given) := by
  refine .maybeParam (fun d => ?_) given
  cases d with
  | string s => exact .pure _
  | _ => exact .wrongParam _ _ _

theorem maybeInt (param : String) (given : Option Datum) : Built (Eval.maybeInt param given) :=
  .maybeParam (fun _ => .intParam _ _ _) given

theorem optionalInt (param : String) (given : Option Datum) :
    Built (Eval.optionalParam (Eval.intParam param "int") given) :=
  .optionalParam (fun _ => .intParam _ _ _) given

/-! ### Texts from patterns -/

theorem formatPercent (pattern : String) (d : Datum) : Built (Eval.formatPercent pattern d) :=
  .map (.readOr fun m c b => withClock_fillPercents m c b _ _) _

theorem formatBraces (pattern : String) (data : List Datum) (named : List (String × Datum)) :
    Built (Eval.formatBraces pattern data named) :=
  .map (.readOr fun m c b => withClock_fillParts m c b _ _ _ _ _) _

end Lookout.Script.Built
