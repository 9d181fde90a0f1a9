/-
Reading an array after a change: the equations that states made of arrays need.
-/
import Mathlib.Data.List.Basic

namespace Lookout

variable {α : Type} {xs : Array α} {i : Nat} {x : α}

/-- What an array holds is still there after one more item was put at its end. -/
theorem getElem?_push_of_some (y : α) (hx : xs[i]? = some x) : (xs.push y)[i]? = some x := by
  obtain ⟨hlt, rfl⟩ := Array.getElem?_eq_some_iff.mp hx
  exact Array.getElem?_push_lt hlt

theorem modify_eq_set (f : α → α) (hx : xs[i]? = some x) :
    xs.modify i f = xs.setIfInBounds i (f x) := by
  grind

theorem set_self (hx : xs[i]? = some x) : xs.setIfInBounds i x = xs := by
  grind

theorem modify_push (xs : Array α) (x : α) (f : α → α) :
    (xs.push x).modify xs.size f = xs.push (f x) := by
  grind

end Lookout
