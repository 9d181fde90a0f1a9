/-
What is left of a text when characters of a kind are taken off its ends.

A text is bare of a kind if it neither begins nor ends with a character of it.  What is left by
trimming is bare, and a bare text is what is left of it with any characters of the kind around it.
From these two follows the rest: to trim twice is to trim once, and nothing is left exactly of a
text that has no other characters.
-/
import Mathlib.Data.List.DropRight
import Lookout.Text.Blank

namespace Lookout

namespace Text

/-! ### One end -/

section Ends

variable {α : Type} {p : α → Bool} {xs ys : List α}

theorem dropWhile_append_of_all (hxs : ∀ x ∈ xs, p x)
    (hys : ∀ y, ys.head? = some y → p y = false) : (xs ++ ys).dropWhile p = ys := by
  rw [List.dropWhile_append_of_pos hxs]
  cases ys with
  | nil => simp
  | cons y ys => simp [hys y rfl]

theorem dropWhile_eq_self (h : ∀ x, xs.head? = some x → p x = false) : xs.dropWhile p = xs := by
  cases xs with
  | nil => rfl
  | cons x xs => simp [h x rfl]

/-- A list without its first elements does not begin with another one that would be left out. -/
theorem head?_dropWhile {x : α} (h : (xs.dropWhile p).head? = some x) : p x = false := by
  have hnot := List.head?_dropWhile_not p xs
  rw [h] at hnot
  exact hnot

end Ends

variable {p : Char → Bool} {cs before behind : List Char}

theorem trimEnd_append_of_all (hbehind : ∀ c ∈ behind, p c = true)
    (hlast : ∀ c, cs.getLast? = some c → p c = false) : trimEnd p (cs ++ behind) = cs := by
  rw [trimEnd, List.reverse_append, dropWhile_append_of_all, List.reverse_reverse]
  · exact fun c hc => hbehind c (List.mem_reverse.mp hc)
  · simpa using hlast

theorem trimEnd_eq_nil : trimEnd p cs = [] ↔ ∀ c ∈ cs, p c = true :=
  List.rdropWhile_eq_nil_iff

/-! ### Both ends -/

/-- A text neither begins nor ends with a character of a kind. -/
structure Bare (p : Char → Bool) (cs : List Char) : Prop where
  head : ∀ c, cs.head? = some c → p c = false
  last : ∀ c, cs.getLast? = some c → p c = false

theorem bare_iff : Bare p cs ↔
    cs.head?.all (fun c => !p c) = true ∧ cs.getLast?.all (fun c => !p c) = true := by
  rw [Option.all_eq_true, Option.all_eq_true]
  simp only [Bool.not_eq_true']
  exact ⟨fun h => ⟨h.head, h.last⟩, fun h => ⟨h.1, h.2⟩⟩

instance (p : Char → Bool) (cs : List Char) : Decidable (Bare p cs) :=
  decidable_of_iff _ bare_iff.symm

/-- What was taken off the ends of a text is of the kind. -/
theorem exists_trim (p : Char → Bool) (cs : List Char) : ∃ before behind : List Char,
    (∀ c ∈ before, p c = true) ∧ (∀ c ∈ behind, p c = true) ∧
      cs = before ++ trim p cs ++ behind := by
  refine ⟨cs.takeWhile p, (cs.dropWhile p).rtakeWhile p, fun c hc => List.mem_takeWhile_imp hc,
    fun c hc => List.mem_rtakeWhile_imp hc, ?_⟩
  have hend : trim p cs ++ (cs.dropWhile p).rtakeWhile p = cs.dropWhile p :=
    List.rdropWhile_append_rtakeWhile
  rw [List.append_assoc, hend, List.takeWhile_append_dropWhile]

theorem trim_eq_nil : trim p cs = [] ↔ ∀ c ∈ cs, p c = true := by
  constructor
  · intro h
    obtain ⟨before, behind, hbefore, hbehind, hcs⟩ := exists_trim p cs
    rw [h, List.append_nil] at hcs
    rw [hcs]
    exact List.forall_mem_append.mpr ⟨hbefore, hbehind⟩
  · intro h
    rw [trim, trimStart, List.dropWhile_eq_nil_iff.mpr h]
    rfl

theorem bare_trim (p : Char → Bool) (cs : List Char) : Bare p (trim p cs) where
  head := by
    intro c hc
    obtain ⟨rest, hrest⟩ : trim p cs <+: cs.dropWhile p := List.rdropWhile_prefix ..
    have hfront : (cs.dropWhile p).head? = some c := by
      rw [← hrest, List.head?_append, hc]
      rfl
    exact head?_dropWhile hfront
  last := by
    intro c hc
    rw [trim, trimEnd, List.getLast?_reverse] at hc
    exact head?_dropWhile hc

/-- A text without characters of a kind is bare of it. -/
theorem bare_of_forall (h : ∀ c ∈ cs, p c = false) : Bare p cs where
  head := fun c hc => h c (List.mem_of_mem_head? hc)
  last := fun c hc => h c (List.mem_of_getLast? hc)

/-- A bare text is what is left of it with characters of the kind around it. -/
theorem Bare.trim_append (h : Bare p cs) (hbefore : ∀ c ∈ before, p c = true)
    (hbehind : ∀ c ∈ behind, p c = true) : trim p (before ++ cs ++ behind) = cs := by
  cases cs with
  | nil =>
      rw [List.append_nil]
      exact trim_eq_nil.mpr (List.forall_mem_append.mpr ⟨hbefore, hbehind⟩)
  | cons d ds =>
      -- The head of a text that is not empty is not one of the characters behind it.
      have hhead : ∀ c, (d :: ds ++ behind).head? = some c → p c = false := fun c hc => h.head c hc
      rw [trim, trimStart, List.append_assoc, dropWhile_append_of_all hbefore hhead]
      exact trimEnd_append_of_all hbehind h.last

theorem Bare.trim_eq_self (h : Bare p cs) : trim p cs = cs := by
  have hnone : ∀ c ∈ ([] : List Char), p c = true := fun c hc => (List.not_mem_nil hc).elim
  simpa using h.trim_append hnone hnone

/-! ### White space around a string -/

theorem stripBlanks_stripBlanks (s : String) : stripBlanks (stripBlanks s) = stripBlanks s := by
  unfold stripBlanks
  rw [String.toList_ofList, (bare_trim isBlank s.toList).trim_eq_self]

theorem isAllBlank_iff {s : String} : isAllBlank s = true ↔ ∀ c ∈ s.toList, isBlank c = true :=
  List.all_eq_true

end Text

end Lookout
