/-
The functions that every script can use, as steps of evaluation.

Those that call other functions are steps of evaluation if each call is.
-/
import Lookout.Proofs.Script.BuiltMethods

namespace Lookout.Script.Built

variable {α : Type}

/-! ### Parameters -/

theorem bindNative (function : String) (params : List NativeParam) (args : Arguments) :
    Built (Eval.bindNative function params args) := by
  unfold Eval.bindNative
  dsimp only
  split
  · exact .fail _
  · split
    · exact .fail _
    · exact .ite (.fail _) (.ite (.fail _) (.pure _))

theorem onlyArgument (args : Arguments) : Built (Eval.onlyArgument args) :=
  .map (.positionalOnly _ _ _) _

/-! ### Going through data -/

theorem overItems (source : Datum) {step : List Datum → Eval α} (hs : ∀ ds, Built (step ds)) :
    Built (Eval.overItems source step) := by
  refine .bind (.itemsOf _) fun items => ?_
  split
  · exact .reading _ (hs _)
  · exact .reading _ (hs _)
  · exact hs _

theorem bestOf (better : Ordering → Bool) {keyOf : Datum → Eval Datum}
    (hk : ∀ d, Built (keyOf d)) :
    ∀ (items : List Datum) (best key : Datum), Built (Eval.bestOf better keyOf best key items) := by
  intro items
  induction items with
  | nil => exact fun _ _ => .pure _
  | cons d ds ih =>
      intro best key
      exact .bind (hk d) fun _ => .bind (.compare _ _) fun _ => .ite (ih _ _) (ih _ _)

section Calls

variable {call : Eval.Caller} (hc : ∀ d args, Built (call d args))
include hc

theorem applyEach (f : Datum) : ∀ items : List Datum, Built (Eval.applyEach call f items) := by
  intro items
  induction items with
  | nil => exact .pure _
  | cons d ds ih => exact .bind (hc _ _) fun _ => .map ih _

theorem keepTrue (f : Datum) : ∀ items : List Datum, Built (Eval.keepTrue call f items) := by
  intro items
  induction items with
  | nil => exact .pure _
  | cons d ds ih =>
      cases f with
      | none => exact .bind (.pure _) fun _ => .map ih _
      | _ => exact .bind (hc _ _) fun _ => .bind (.truth _) fun _ => .map ih _

theorem extreme (function : String) (better : Ordering → Bool) (args : Arguments) :
    Built (Eval.extreme call function better args) := by
  refine .bind (.bindNative _ _ _) fun data => ?_
  extract_lets keyOf choose
  have hk : ∀ d, Built (keyOf d) := by
    intro d
    dsimp only [keyOf]
    split
    · exact hc _ _
    · exact .pure _
  have hchoose : ∀ items, Built (choose items) := by
    intro items
    cases items with
    | nil => exact .fail _
    | cons d ds => exact .bind (hk d) fun _ => .bestOf better hk _ _ _
  split
  · exact .overItems _ hchoose
  · exact hchoose _

theorem sortedItems (args : Arguments) : Built (Eval.sortedItems call args) := by
  refine .bind (.bindNative _ _ _) fun data => .bind (.itemsOf _) fun items =>
    .bind (.optionalParam (fun _ => .boolParam _ _) _) fun backwards => ?_
  extract_lets rest
  have hrest : ∀ keys, Built (rest keys) := fun keys =>
    .bind (.readOr fun m c b => by rw [withClock_compare]) fun _ => .newList _
  split
  · exact .bind (.applyEach hc _ _) hrest
  · exact hrest _

end Calls

/-! ### Numbers, lengths, dictionaries and JSON -/

theorem toInteger (args : Arguments) : Built (Eval.toInteger args) := by
  refine .bind (.bindNative _ _ _) fun data => .bind (.optionalInt _ _) fun base => ?_
  split
  · exact .pure _
  · exact .map (.ofExcept _) _
  · extract_lets rest
    have hrest : ∀ number, Built (rest number) := by
      intro number
      dsimp only [rest]
      split
      · exact .bind (.shown _) fun _ => .fail _
      · split
        · exact .map (.readOr fun m c b => withClock_truncated m c b _) _
        · exact .pure _
    split
    · exact .bind (.pure _) hrest
    · exact .bind (.pure _) hrest
    · exact .bind (.pure _) hrest
    · exact .bind (.wrongParam _ _ _) hrest

theorem toFloat (args : Arguments) : Built (Eval.toFloat args) := by
  refine .bind (.positionalOnly _ _ _) fun given => ?_
  split
  · exact .pure _
  · exact .pure _
  · exact .pure _
  · exact .pure _
  · exact .map (.readOr fun m c b => withClock_readFloatText m c b _) _
  · exact .wrongParam _ _ _

theorem makeRange (args : Arguments) : Built (Eval.makeRange args) := by
  refine .bind (.positionalOnly _ _ _) fun _ => .bind (.intParam _ _ _) fun _ =>
    .bind (.optionalInt _ _) fun second => .bind (.optionalInt _ _) fun _ =>
    .ite (.fail _) ?_
  cases second with
  | none => exact .pure _
  | some stop => exact .pure _

theorem lengthOf (d : Datum) : Built (Eval.lengthOf d) := by
  cases d with
  | string s => exact .pure _
  | tuple items => exact .pure _
  | range start stop step => exact .pure _
  | list a => exact .map (.readItems _) _
  | dict a => exact .map (.readEntries _) _
  | _ => exact .fail _

theorem makeDict (args : Arguments) : Built (Eval.makeDict args) := by
  refine .bind (.positionalOnly _ _ _) fun given => .bind (.alloc _) fun a => ?_
  cases given with
  | nil => exact .map (.enterAll _ _) _
  | cons source _ => exact .bind (.enterFrom _ _ _) fun _ => .map (.enterAll _ _) _

theorem numbered (args : Arguments) : Built (Eval.numbered args) :=
  .bind (.bindNative _ _ _) fun _ => .bind (.itemsOf _) fun _ =>
    .bind (.optionalInt _ _) fun _ => .newList _

theorem encodeJson (d : Datum) : Built (Eval.encodeJson d) :=
  .map (.readOr fun m c b => by rw [withClock_plain]) _

theorem decodeJson (text : String) : Built (Eval.decodeJson text) := by
  unfold Eval.decodeJson
  split
  · exact .ofValue _ _
  · exact .fail _

/-! ### The functions -/

theorem callBuiltin {call : Eval.Caller} (hc : ∀ d args, Built (call d args)) (b : Builtin)
    (args : Arguments) : Built (Eval.callBuiltin call b args) := by
  unfold Eval.callBuiltin
  cases b with
  | abs =>
      refine .bind (.onlyArgument _) fun d => ?_
      split
      · exact .pure _
      · exact .pure _
      · exact .wrongParam _ _ _
  | all =>
      refine .bind (.onlyArgument _) fun _ => .bind (.itemsOf _) fun items =>
        .map (.read fun m c b => ?_) _
      rw [withClock_truth]
  | any =>
      refine .bind (.onlyArgument _) fun _ => .bind (.itemsOf _) fun items =>
        .map (.read fun m c b => ?_) _
      rw [withClock_truth]
  | bool => exact .bind (.positionalOnly _ _ _) fun _ => .map (.truth _) _
  | chr =>
      exact .bind (.onlyArgument _) fun _ => .bind (.intParam _ _ _) fun _ => .ofExcept _
  | dict => exact .makeDict _
  | dir => exact .bind (.onlyArgument _) fun _ => .newList _
  | enumerate => exact .numbered _
  | fail => exact .bind (.mapM (fun _ => .plainText _) _) fun _ => .fail _
  | filter =>
      exact .bind (.positionalOnly _ _ _) fun _ =>
        .bind (.overItems _ (.keepTrue hc _)) fun _ => .newList _
  | float => exact .toFloat _
  | getattr =>
      refine .bind (.positionalOnly _ _ _) fun _ => .bind (.textParam _ _) fun _ => ?_
      split
      · exact .pure _
      · exact .pure _
      · exact .fail _
  | hasattr => exact .bind (.positionalOnly _ _ _) fun _ => .map (.textParam _ _) _
  | hash => exact .bind (.onlyArgument _) fun _ => .map (.textParam _ _) _
  | int => exact .toInteger _
  | jsonDecode =>
      exact .bind (.onlyArgument _) fun _ => .bind (.textParam _ _) fun _ => .decodeJson _
  | jsonEncode => exact .bind (.onlyArgument _) fun _ => .encodeJson _
  | len => exact .bind (.onlyArgument _) fun _ => .lengthOf _
  | list =>
      refine .bind (.positionalOnly _ _ _) fun given => ?_
      cases given with
      | nil => exact .newList _
      | cons d _ => exact .bind (.itemsOf _) fun _ => .newList _
  | map =>
      exact .bind (.positionalOnly _ _ _) fun _ =>
        .bind (.overItems _ (.applyEach hc _)) fun _ => .newList _
  | max => exact .extreme hc _ _ _
  | min => exact .extreme hc _ _ _
  | ord =>
      refine .bind (.onlyArgument _) fun _ => .bind (.textParam _ _) fun _ => ?_
      split
      · exact .pure _
      · exact .bind (.shown _) fun _ => .fail _
  | range => exact .makeRange _
  | repr => exact .bind (.onlyArgument _) fun _ => .map (.shown _) _
  | reversed =>
      exact .bind (.onlyArgument _) fun _ => .bind (.itemsOf _) fun _ => .newList _
  | sorted => exact .sortedItems hc _
  | str => exact .bind (.onlyArgument _) fun _ => .map (.plainText _) _
  | struct => exact .map (.positionalOnly _ _ _) _
  | tuple =>
      refine .bind (.positionalOnly _ _ _) fun given => ?_
      cases given with
      | nil => exact .pure _
      | cons d _ => exact .map (.itemsOf _) _
  | type => exact .map (.onlyArgument _) _
  | zip => exact .bind (.mapM (fun _ => .itemsOf _) _) fun _ => .newList _

end Lookout.Script.Built
