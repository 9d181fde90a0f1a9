/-
What a run leaves of the state it started in.

Cells that were there before the run are frozen.  No step of evaluation changes one of them, and
no step makes any other cell frozen, moves the limit or takes a statement back; so when a run is
over, however it ended, the cells it started from are all still there and are all the
interpreter keeps.  An interpreter after a run is the interpreter before it.
-/
import Lookout.Proofs.Arrays
import Lookout.Proofs.Script.BuiltScripts

namespace Lookout.Script

/-- The state after a step, whether the step ended in an answer or in a halt. -/
def Eval.stateAfter {α : Type} (e : Eval α) (m : Machine) : Machine :=
  match e.run m with
  | .ok _ m' => m'
  | .error _ m' => m'

/-- How a later state of a run relates to an earlier one. -/
structure Keeps (m m' : Machine) : Prop where
  /-- No cell becomes frozen, and none thaws. -/
  frozen : m'.frozen = m.frozen
  /-- The limit stays where it is. -/
  limit : m'.cancelAt = m.cancelAt
  /-- Statements that have begun are not taken back. -/
  begun : m.begun ≤ m'.begun
  /-- Cells are not given back. -/
  size : m.cells.size ≤ m'.cells.size
  /-- A frozen cell stays as it is. -/
  cells : ∀ a < m.frozen, ∀ c, m.cells[a]? = some c → m'.cells[a]? = some c

namespace Keeps

theorem refl (m : Machine) : Keeps m m :=
  ⟨rfl, rfl, Nat.le_refl _, Nat.le_refl _, fun _ _ _ hc => hc⟩

theorem trans {m₁ m₂ m₃ : Machine} (h : Keeps m₁ m₂) (h' : Keeps m₂ m₃) : Keeps m₁ m₃ where
  frozen := h'.frozen.trans h.frozen
  limit := h'.limit.trans h.limit
  begun := Nat.le_trans h.begun h'.begun
  size := Nat.le_trans h.size h'.size
  cells a ha c hc := h'.cells a (by rw [h.frozen]; exact ha) c (h.cells a ha c hc)

end Keeps

/-! ### The small steps -/

theorem stateAfter_alloc (c : Cell) (m : Machine) :
    (Eval.alloc c).stateAfter m = { m with cells := m.cells.push c } := rfl

theorem stateAfter_change (a : Addr) (f : Cell → Cell) (m : Machine) :
    (Eval.change a f).stateAfter m
      = if a < m.frozen then m else { m with cells := m.cells.modify a f } := rfl

theorem stateAfter_beginStatement (m : Machine) :
    Eval.beginStatement.stateAfter m
      = if m.isCancelled then m else { m with begun := m.begun + 1 } := by
  unfold Eval.stateAfter Eval.beginStatement
  rw [EStateM.run_bind]
  simp only [EStateM.run_get]
  cases m.isCancelled with
  | true => rfl
  | false => rfl

theorem stateAfter_beginRound (m : Machine) :
    Eval.beginRound.stateAfter m = { m with begun := m.begun + 1 } := rfl

theorem stateAfter_bind {α β : Type} (e : Eval α) (k : α → Eval β) (m : Machine) :
    (e >>= k).stateAfter m
      = match e.run m with
        | .ok x m' => (k x).stateAfter m'
        | .error _ m' => m' := by
  unfold Eval.stateAfter
  rw [EStateM.run_bind]
  cases e.run m with
  | ok x m' => rfl
  | error h m' => rfl

theorem keeps_alloc (c : Cell) (m : Machine) : Keeps m ((Eval.alloc c).stateAfter m) := by
  rw [stateAfter_alloc]
  refine ⟨rfl, rfl, Nat.le_refl _, ?_, ?_⟩
  · rw [Array.size_push]
    exact Nat.le_succ _
  · exact fun a _ d hd => getElem?_push_of_some c hd

theorem keeps_change (a : Addr) (f : Cell → Cell) (m : Machine) :
    Keeps m ((Eval.change a f).stateAfter m) := by
  rw [stateAfter_change]
  split
  · exact .refl m
  · case isFalse hf =>
    refine ⟨rfl, rfl, Nat.le_refl _, ?_, ?_⟩
    · exact Nat.le_of_eq (Array.size_modify).symm
    · intro b hb c hc
      have hne : a ≠ b := fun heq => hf (heq ▸ hb)
      rw [Array.getElem?_modify, if_neg hne]
      exact hc

theorem keeps_beginStatement (m : Machine) : Keeps m (Eval.beginStatement.stateAfter m) := by
  rw [stateAfter_beginStatement]
  split
  · exact .refl m
  · exact ⟨rfl, rfl, Nat.le_succ _, Nat.le_refl _, fun _ _ _ hc => hc⟩

theorem keeps_beginRound (m : Machine) : Keeps m (Eval.beginRound.stateAfter m) := by
  rw [stateAfter_beginRound]
  exact ⟨rfl, rfl, Nat.le_succ _, Nat.le_refl _, fun _ _ _ hc => hc⟩

/-! ### Runs -/

/-- What each small step leaves as it was, runs leave as it was, whether they end in an answer or in
a halt. -/
theorem Built.relates {R : Machine → Machine → Prop} (refl : ∀ m, R m m)
    (trans : ∀ {m₁ m₂ m₃}, R m₁ m₂ → R m₂ m₃ → R m₁ m₃)
    (alloc : ∀ c m, R m ((Eval.alloc c).stateAfter m))
    (change : ∀ a f, KeepsAssigned f → ∀ m, R m ((Eval.change a f).stateAfter m))
    (beginStatement : ∀ m, R m (Eval.beginStatement.stateAfter m))
    (beginRound : ∀ m, R m (Eval.beginRound.stateAfter m))
    {α : Type} {e : Eval α} (he : Built e) : ∀ m : Machine, R m (e.stateAfter m) := by
  induction he with
  | pure x => exact refl
  | halt h hh => exact refl
  | look hk hb ih => exact fun m => ih m m
  | alloc c => exact alloc c
  | change a hf => exact change a _ hf
  | beginStatement => exact beginStatement
  | beginRound => exact beginRound
  | @bind α β e k he hk ihe ihk =>
      intro m
      have hm := ihe m
      rw [stateAfter_bind]
      unfold Eval.stateAfter at hm
      cases hr : e.run m with
      | ok x m' => rw [hr] at hm; exact trans hm (ihk x m')
      | error h m' => rw [hr] at hm; exact hm

/-- **Evaluation keeps what was frozen**, whether it ends in an answer or in a halt. -/
theorem Built.keeps {α : Type} {e : Eval α} (he : Built e) :
    ∀ m : Machine, Keeps m (e.stateAfter m) :=
  he.relates .refl .trans keeps_alloc (fun a f _ => keeps_change a f) keeps_beginStatement
    keeps_beginRound

/-- The cells that a run started from are what is left of its cells. -/
theorem Keeps.take_frozen {cells : Array Cell} {cancelAt : Option Nat} {begun : Nat}
    {m : Machine} (h : Keeps ⟨cells, cells.size, cancelAt, begun⟩ m) :
    m.cells.take m.frozen = cells := by
  have hsize : cells.size ≤ m.cells.size := h.size
  rw [h.frozen]
  apply Array.ext_getElem?
  intro a
  show (m.cells.extract 0 cells.size)[a]? = cells[a]?
  rw [Array.getElem?_extract, Nat.sub_zero, Nat.zero_add, Nat.min_eq_left hsize]
  split
  · case isTrue ha =>
    have hc : cells[a]? = some cells[a] := Array.getElem?_eq_getElem ha
    rw [hc]
    exact h.cells a ha _ hc
  · case isFalse ha => rw [Array.getElem?_eq_none (Nat.le_of_not_lt ha)]

/-- **No run changes the interpreter it runs in**: whatever the script does, and however the run
ends, the next script starts where this one started. -/
@[simp] theorem Interpreter.run_snd (i : Interpreter) (cancelAt : Option Nat) (source : String)
    (context : AlertContext) : (i.run cancelAt source context).2 = i := by
  have hleft : ∀ (statements : List Stmt),
      Keeps ⟨i.cells, i.cells.size, cancelAt, 0⟩
        ((i.condition context statements).stateAfter ⟨i.cells, i.cells.size, cancelAt, 0⟩) :=
    fun statements => (Built.condition i context statements).keeps _
  unfold Interpreter.run
  split
  · rfl
  split
  · rfl
  · case _ statements _ =>
    have hk := hleft statements
    unfold Eval.stateAfter at hk
    split
    · rfl
    · dsimp only
      split
      · case _ hr => rw [hr] at hk; rw [hk.take_frozen]
      · case _ hr => rw [hr] at hk; rw [hk.take_frozen]

end Lookout.Script
