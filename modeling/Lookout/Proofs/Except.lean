/-
Taking a computation that can fail apart: the equations that readers and loaders need.
-/

namespace Lookout

variable {ε ε' α β : Type} {x : Except ε α}

/-- Behind a computation that came to something comes the next one. -/
theorem bind_of_eq_ok {a : α} (h : x = .ok a) (f : α → Except ε β) : x.bind f = f a := by
  rw [h]
  rfl

/-- What came of two computations in a row came of the second one. -/
theorem bind_eq_ok {f : α → Except ε β} {b : β} (h : x.bind f = .ok b) :
    ∃ a, x = .ok a ∧ f a = .ok b := by
  cases x with
  | error e => cases h
  | ok a => exact ⟨a, rfl, h⟩

/-- Two computations in a row fail when the first one fails, or the second one behind it. -/
theorem bind_eq_error {f : α → Except ε β} {e : ε} (h : x.bind f = .error e) :
    x = .error e ∨ ∃ a, x = .ok a ∧ f a = .error e := by
  cases x with
  | error d => cases h; exact Or.inl rfl
  | ok a => exact Or.inr ⟨a, rfl, h⟩

/-- A failure under another name comes of a failure. -/
theorem mapError_eq_error {f : ε → ε'} {e' : ε'} (h : x.mapError f = .error e') :
    ∃ e, x = .error e ∧ f e = e' := by
  cases x with
  | error e => cases h; exact ⟨e, rfl, rfl⟩
  | ok a => cases h

/-- Another name for a failure is no success. -/
theorem mapError_eq_ok {f : ε → ε'} {a : α} : x.mapError f = .ok a ↔ x = .ok a := by
  cases x with
  | error e =>
      constructor
      · exact fun h => by cases h
      · exact fun h => by cases h
  | ok b =>
      constructor
      · exact fun h => by cases h; rfl
      · exact fun h => by cases h; rfl

/-- What is found of a result after its failure was dropped is found of a result. -/
theorem eq_ok_of_toOption_map {f : α → β} {b : β} (h : x.toOption.map f = some b) :
    ∃ a, x = .ok a ∧ f a = b := by
  cases x with
  | error e => cases h
  | ok a => exact ⟨a, rfl, Option.some.inj h⟩

end Lookout
