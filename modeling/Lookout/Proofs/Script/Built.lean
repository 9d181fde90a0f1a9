/-
What evaluation is built from.

Every step of a run, however large, is put together from eight kinds of small ones: an answer, a
halt, a look at the state that does not show the clock, a new cell, a change of a cell that is
not frozen, the beginning of a statement, the beginning of a round of a comprehension, and one step
after another.  The changes are few: readers are counted, items and entries are replaced, and
variables are assigned, but no variable that is assigned ever loses its datum.  `Built` says so of
a step.  That a step of evaluation is `Built` is shown once,
function by function, and whatever is then true of the small steps, and survives putting two steps
together, is true of whole scripts by one induction: that frozen cells stay as they are, for one,
and that giving up on a run changes nothing but where it ends.

The files beside this one go through the functions of the evaluator in the order in which they
are defined.
-/
import Lookout.Proofs.Script.Clock

namespace Lookout.Script

/-! ### Changes of cells -/

/-- The variables of a cell; only frames have any. -/
def Cell.variables : Cell → List (String × Option Datum)
  | .frame _ bindings => bindings
  | _ => []

/-- A change of a cell after which each variable that was assigned is still assigned. -/
def KeepsAssigned (f : Cell → Cell) : Prop :=
  ∀ c name d, c.variables.lookup name = some (some d) →
    ∃ d', (f c).variables.lookup name = some (some d')

/-- A change that leaves frames alone. -/
theorem KeepsAssigned.of_frames {f : Cell → Cell}
    (h : ∀ parent bindings, f (.frame parent bindings) = .frame parent bindings) :
    KeepsAssigned f := by
  intro c name d assigned
  cases c with
  | frame parent bindings =>
    rw [h parent bindings]
    exact ⟨d, assigned⟩
  | _ => cases assigned

/-- Assigning a variable that is there changes it, and nothing else. -/
theorem lookup_assignIn (assigned : String) (new : Datum) (name : String) :
    ∀ bindings : List (String × Option Datum), (assignIn assigned new bindings).lookup name
      = if name = assigned then (bindings.lookup name).map fun _ => some new
        else bindings.lookup name := by
  intro bindings
  induction bindings with
  | nil => exact (ite_self none).symm
  | cons b rest ih =>
    obtain ⟨n, old⟩ := b
    unfold assignIn
    by_cases here : n = assigned
    · rw [if_pos here, List.lookup_cons, List.lookup_cons]
      by_cases same : name = n
      · rw [if_pos (same.trans here), beq_iff_eq.mpr same]
        rfl
      · rw [if_neg fun h => same (h.trans here.symm), beq_false_of_ne same]
    · rw [if_neg here, List.lookup_cons, List.lookup_cons, ih]
      by_cases same : name = n
      · rw [beq_iff_eq.mpr same]
        exact (if_neg fun h => here (same.symm.trans h)).symm
      · rw [beq_false_of_ne same]

theorem KeepsAssigned.assign (assigned : String) (new : Datum) :
    KeepsAssigned (.assign assigned new) := by
  intro c name d h
  cases c with
  | frame parent bindings =>
    have h : bindings.lookup name = some (some d) := h
    show ∃ d', (assignIn assigned new bindings).lookup name = some (some d')
    rw [lookup_assignIn, h]
    split
    · exact ⟨new, rfl⟩
    · exact ⟨d, rfl⟩
  | _ => cases h

/-- A step that is put together from the small steps of evaluation. -/
inductive Built : {α : Type} → Eval α → Prop
  | pure {α : Type} (x : α) : Built (pure x : Eval α)
  /-- Only the beginning of a statement gives up on a run. -/
  | halt {α : Type} (h : Halt) (hh : h ≠ .cancelled) : Built (throw h : Eval α)
  | look {α : Type} {k : Machine → Eval α} (hk : ∀ m, Built (k m)) (hb : Blind k) :
      Built (get >>= k)
  | alloc (c : Cell) : Built (Eval.alloc c)
  | change (a : Addr) {f : Cell → Cell} (hf : KeepsAssigned f) : Built (Eval.change a f)
  | beginStatement : Built Eval.beginStatement
  | beginRound : Built Eval.beginRound
  | bind {α β : Type} {e : Eval α} {k : α → Eval β} (he : Built e) (hk : ∀ x, Built (k x)) :
      Built (e >>= k)

namespace Built

variable {α β : Type}

/-! ### Steps of a few small ones -/

theorem fail (f : Fault) : Built (Eval.fail f : Eval α) :=
  .halt _ (fun hc => by cases hc)

theorem died : Built (throw .died : Eval α) :=
  .halt _ (fun hc => by cases hc)

theorem ofExcept : ∀ r : Except Fault α, Built (Eval.ofExcept r)
  | .ok _ => .pure _
  | .error f => .fail f

theorem read {f : Machine → α} (hf : Blind f) : Built (Eval.read f) :=
  .look (fun _ => .pure _) fun m c b => by rw [hf]

theorem readOr {f : Machine → Except Fault α} (hf : Blind f) : Built (Eval.readOr f) :=
  .look (fun _ => .ofExcept _) fun m c b => by rw [hf]

theorem map {e : Eval α} (he : Built e) (f : α → β) : Built (e >>= fun x => Pure.pure (f x)) :=
  .bind he fun _ => .pure _

theorem mapM {f : α → Eval β} (hf : ∀ x, Built (f x)) : ∀ xs : List α, Built (xs.mapM f) := by
  intro xs
  induction xs with
  | nil => exact .pure _
  | cons x rest ih =>
      rw [List.mapM_cons]
      exact .bind (hf x) fun _ => .map ih _

theorem newList (items : List Datum) : Built (Eval.newList items) :=
  .map (.alloc _) _

theorem newDict (entries : List (Datum × Datum)) : Built (Eval.newDict entries) :=
  .map (.alloc _) _

/-! ### Changing lists and dictionaries -/

theorem checkMutable (a : Addr) : Built (Eval.checkMutable a) := by
  refine .look (fun m => ?_) fun m c b => rfl
  split
  · exact .fail _
  · split
    · exact .fail _
    · exact .pure _

theorem changeItems (a : Addr) (f : Array Datum → Array Datum) : Built (Eval.changeItems a f) :=
  .bind (.checkMutable a) fun _ => .change a (.of_frames fun _ _ => rfl)

theorem changeEntries (a : Addr) (f : List (Datum × Datum) → List (Datum × Datum)) :
    Built (Eval.changeEntries a f) :=
  .bind (.checkMutable a) fun _ => .change a (.of_frames fun _ _ => rfl)

theorem reading (a : Addr) {step : Eval α} (hs : Built step) : Built (Eval.reading a step) :=
  .bind (.change a (.of_frames fun _ _ => rfl)) fun _ =>
    .bind hs fun _ => .map (.change a (.of_frames fun _ _ => rfl)) _

/-! ### Comparing, showing and looking up -/

theorem truth (d : Datum) : Built (Eval.truth d) :=
  .read fun m c b => by rw [withClock_truth]

theorem checkKey (key : Datum) : Built (Eval.checkKey key) := by
  unfold Eval.checkKey
  split
  · exact .fail _
  · exact .pure _

theorem equal (x y : Datum) : Built (Eval.equal x y) :=
  .readOr fun m c b => by rw [withClock_equal]

theorem compare (x y : Datum) : Built (Eval.compare x y) :=
  .readOr fun m c b => by rw [withClock_compare]

theorem lookup (a : Addr) (key : Datum) : Built (Eval.lookup a key) :=
  .readOr fun m c b => withClock_lookup m c b a key

theorem enterKey (a : Addr) (key value : Datum) : Built (Eval.enterKey a key value) := by
  refine .bind (.checkKey key) fun _ => .bind (.readOr fun m c b => ?_) fun place => ?_
  · exact withClock_keyPlace m c b a key
  · exact .changeEntries a _

theorem shown (d : Datum) : Built (Eval.shown d) :=
  .read fun m c b => by rw [withClock_shown]

theorem plainText (d : Datum) : Built (Eval.plainText d) :=
  .read fun m c b => by rw [withClock_plainText]

theorem itemsOf (d : Datum) : Built (Eval.itemsOf d) :=
  .readOr fun m c b => withClock_itemsOf m c b d

theorem readItems (a : Addr) : Built (Eval.read fun m => m.items a) :=
  .read fun _ _ _ => rfl

theorem readEntries (a : Addr) : Built (Eval.read fun m => m.entries a) :=
  .read fun _ _ _ => rfl

theorem indexOf (d : Datum) : Built (Eval.readOr fun m => m.indexOf d) :=
  .readOr fun m c b => by rw [withClock_indexOf]

theorem sliceBounds (length : Nat) (start stop step : Option Datum) :
    Built (Eval.readOr fun m => m.sliceOf length start stop step) :=
  .readOr fun m c b => withClock_sliceOf m c b length start stop step

end Built

end Lookout.Script
