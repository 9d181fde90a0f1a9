/-
Nothing that a script reads off the state shows the clock.

A state holds cells, how many of them are frozen, and a clock: what time it is and at what time
the run is given up on.  Data are shown, compared, looked up and converted
from the cells alone.  That is why a run that is given up on does, up to then, exactly what the
same run does without a limit, and it is what the equations here say, one for each way of
reading a state.
-/
import Mathlib.Data.List.Basic
import Lookout.Script.Evaluate

namespace Lookout.Script

/-- The state with another clock. -/
def Machine.withClock (cancelAt : Option Nat) (begun : Nat) (m : Machine) : Machine :=
  { m with cancelAt := cancelAt, begun := begun }

/-- A reading that does not depend on the clock. -/
def Blind {α : Type} (f : Machine → α) : Prop :=
  ∀ (m : Machine) (c : Option Nat) (b : Nat), f (m.withClock c b) = f m

variable (m : Machine) (c : Option Nat) (b : Nat)

@[simp] theorem withClock_cells : (m.withClock c b).cells = m.cells := rfl
@[simp] theorem withClock_items (a : Addr) : (m.withClock c b).items a = m.items a := rfl
@[simp] theorem withClock_entries (a : Addr) : (m.withClock c b).entries a = m.entries a := rfl
@[simp] theorem withClock_closure (a : Addr) : (m.withClock c b).closure? a = m.closure? a := rfl

@[simp] theorem withClock_truth : (m.withClock c b).truth = m.truth := by
  funext d
  cases d <;> rfl

@[simp] theorem withClock_itemsOf (d : Datum) : (m.withClock c b).itemsOf d = m.itemsOf d := by
  cases d <;> rfl

/-! ### Equality and order -/

theorem equalWithin_withClock :
    ∀ (fuel : Nat), equalWithin (m.withClock c b) fuel = equalWithin m fuel := by
  intro fuel
  induction fuel with
  | zero => funext x y; rfl
  | succ fuel ih =>
      funext x y
      unfold equalWithin
      simp only [ih, withClock_items, withClock_entries]

theorem compareWithin_withClock :
    ∀ (fuel : Nat), compareWithin (m.withClock c b) fuel = compareWithin m fuel := by
  intro fuel
  induction fuel with
  | zero => funext x y; rfl
  | succ fuel ih =>
      funext x y
      unfold compareWithin
      simp only [ih, withClock_items]

@[simp] theorem withClock_equal : (m.withClock c b).equal = m.equal := by
  funext x y
  unfold Machine.equal
  rw [equalWithin_withClock]

@[simp] theorem withClock_compare : (m.withClock c b).compare = m.compare := by
  funext x y
  unfold Machine.compare
  rw [compareWithin_withClock]

@[simp] theorem withClock_lookup (a : Addr) (key : Datum) :
    (m.withClock c b).lookup a key = m.lookup a key := by
  unfold Machine.lookup
  rw [withClock_equal, withClock_entries]

@[simp] theorem withClock_keyPlace (a : Addr) (key : Datum) :
    (m.withClock c b).keyPlace a key = m.keyPlace a key := by
  unfold Machine.keyPlace
  rw [withClock_equal, withClock_entries]

@[simp] theorem withClock_entered (entries others : List (Datum × Datum)) :
    (m.withClock c b).entered entries others = m.entered entries others := by
  induction others generalizing entries with
  | nil => rfl
  | cons e rest ih =>
      unfold Machine.entered
      simp only [withClock_equal, ih]

/-! ### Text -/

theorem shownWithin_withClock :
    ∀ (fuel : Nat), shownWithin (m.withClock c b) fuel = shownWithin m fuel := by
  intro fuel
  induction fuel with
  | zero => funext path d; rfl
  | succ fuel ih =>
      funext path d
      unfold shownWithin
      simp only [ih, withClock_items, withClock_entries, withClock_closure]

@[simp] theorem withClock_shown : (m.withClock c b).shown = m.shown := by
  funext d
  unfold Machine.shown
  rw [shownWithin_withClock]

@[simp] theorem withClock_plainText : (m.withClock c b).plainText = m.plainText := by
  funext d
  unfold Machine.plainText
  rw [withClock_shown]

@[simp] theorem withClock_contains (item whole : Datum) :
    (m.withClock c b).contains item whole = m.contains item whole := by
  unfold Machine.contains
  simp only [withClock_equal, withClock_items, withClock_lookup, withClock_shown]

@[simp] theorem withClock_truncated (x : Float) :
    truncated (m.withClock c b) x = truncated m x := by
  unfold truncated
  rw [withClock_shown]

@[simp] theorem withClock_readFloatText (text : String) :
    readFloatText (m.withClock c b) text = readFloatText m text := by
  unfold readFloatText
  rw [withClock_shown]

theorem conversion_withClock (char : Char) :
    conversion? (m.withClock c b) char = conversion? m char := by
  unfold conversion?
  simp only [withClock_plainText, withClock_shown, withClock_truncated]

@[simp] theorem withClock_fillPercents (pattern : List Char) (data : List Datum) :
    fillPercents (m.withClock c b) pattern data = fillPercents m pattern data := by
  fun_induction fillPercents m pattern data <;>
    simp_all [fillPercents, conversion_withClock]

@[simp] theorem withClock_fillParts (data : List Datum) (named : List (String × Datum))
    (fault : Option Fault) (order : FieldOrder) (parts : List PatternPart) :
    fillParts (m.withClock c b) data named fault order parts
      = fillParts m data named fault order parts := by
  induction parts generalizing order with
  | nil => rfl
  | cons part rest ih =>
      cases part <;> simp only [fillParts, ih, withClock_shown, withClock_plainText]

/-! ### Positions, types and names -/

@[simp] theorem withClock_indexOf : (m.withClock c b).indexOf = m.indexOf := by
  funext d
  unfold Machine.indexOf
  rw [withClock_shown]

@[simp] theorem withClock_sliceEnd : (m.withClock c b).sliceEnd = m.sliceEnd := by
  funext length low high fallback d
  unfold Machine.sliceEnd
  rw [withClock_indexOf]

@[simp] theorem withClock_sliceOf (length : Nat) (start stop step : Option Datum) :
    (m.withClock c b).sliceOf length start stop step = m.sliceOf length start stop step := by
  unfold Machine.sliceOf
  rw [withClock_indexOf, withClock_sliceEnd]

mutual

theorem accepts_withClock :
    ∀ (t : TypeSpec) (d : Datum), t.accepts (m.withClock c b) d = t.accepts m d
  | .any, _ => by simp only [TypeSpec.accepts]
  | .none, d => by cases d <;> simp only [TypeSpec.accepts]
  | .bool, d => by cases d <;> simp only [TypeSpec.accepts]
  | .int, d => by cases d <;> simp only [TypeSpec.accepts]
  | .float, d => by cases d <;> simp only [TypeSpec.accepts]
  | .string, d => by cases d <;> simp only [TypeSpec.accepts]
  | .range, d => by cases d <;> simp only [TypeSpec.accepts]
  | .struct, d => by cases d <;> simp only [TypeSpec.accepts]
  | .list item, d => by
      have ih := accepts_withClock item
      cases d <;> simp only [TypeSpec.accepts, withClock_items, ih]
  | .dict key value, d => by
      have ihk := accepts_withClock key
      have ihv := accepts_withClock value
      cases d <;> simp only [TypeSpec.accepts, withClock_entries, ihk, ihv]
  | .tupleOf items, d => by
      have ih := acceptsEach_withClock items
      cases d <;> simp only [TypeSpec.accepts, ih]
  | .tupleEach item, d => by
      have ih := funext (accepts_withClock item)
      cases d <;> simp only [TypeSpec.accepts, ih]
  | .union options, d => by
      have ih := acceptsSome_withClock options
      cases d <;> simp only [TypeSpec.accepts, ih]

theorem acceptsEach_withClock : ∀ (ts : List TypeSpec) (ds : List Datum),
    TypeSpec.acceptsEach (m.withClock c b) ts ds = TypeSpec.acceptsEach m ts ds
  | [], ds => by cases ds <;> simp only [TypeSpec.acceptsEach]
  | t :: ts, [] => by simp only [TypeSpec.acceptsEach]
  | t :: ts, d :: ds => by
      simp only [TypeSpec.acceptsEach, accepts_withClock t d, acceptsEach_withClock ts ds]

theorem acceptsSome_withClock : ∀ (ts : List TypeSpec) (d : Datum),
    TypeSpec.acceptsSome (m.withClock c b) ts d = TypeSpec.acceptsSome m ts d
  | [], d => by simp only [TypeSpec.acceptsSome]
  | t :: ts, d => by
      simp only [TypeSpec.acceptsSome, accepts_withClock t d, acceptsSome_withClock ts d]

end

theorem binding_withClock (name : String) :
    ∀ (fuel : Nat), (m.withClock c b).binding? name fuel = m.binding? name fuel := by
  intro fuel
  induction fuel with
  | zero => funext a; rfl
  | succ fuel ih =>
      funext a
      unfold Machine.binding?
      simp only [ih, withClock_cells]

@[simp] theorem withClock_named (frame : Addr) (name : String) :
    (m.withClock c b).named frame name = m.named frame name := by
  unfold Machine.named
  rw [binding_withClock]

/-! ### Plain data -/

theorem plainCell_withClock :
    ∀ (fuel : Nat), (m.withClock c b).plainCell fuel = m.plainCell fuel := by
  intro fuel
  induction fuel with
  | zero => funext path a; rfl
  | succ fuel ih =>
      funext path a
      unfold Machine.plainCell
      simp only [ih, withClock_cells, withClock_items]

@[simp] theorem withClock_plain (d : Datum) : (m.withClock c b).plain d = m.plain d := by
  unfold Machine.plain
  rw [plainCell_withClock, withClock_cells]

end Lookout.Script
