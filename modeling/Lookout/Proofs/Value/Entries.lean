/-
What is found among entries after one more was put in.

What is found does not need the entries to be in order: the entry that was put in comes in front of
every other one of its key, and no entry of another key is touched.  The order says where an entry
comes to stand: one whose key is beyond all others comes last.  Putting in keeps the order.
-/
import Lookout.Value.Entries

namespace Lookout.Entries

variable {α : Type}

/-- A key is bound to what was put in for it last, and every other key to what it was. -/
theorem find?_insert (key k : String) (value : α) : ∀ entries : Entries α,
    find? k (insert key value entries) = if key = k then some value else find? k entries := by
  intro entries
  induction entries with
  | nil => rfl
  | cons e rest ih =>
      obtain ⟨l, v⟩ := e
      unfold insert
      split
      · rfl
      · split
        · case isTrue hsame =>
          subst hsame
          unfold find?
          split
          · rfl
          · rfl
        · case isFalse hne =>
          unfold find?
          rw [ih]
          by_cases hl : l = k
          · rw [if_pos hl, if_pos hl, if_neg fun h => hne (h.trans hl.symm)]
          · rw [if_neg hl, if_neg hl]

/-- An entry whose key is beyond all others comes last. -/
theorem insert_last (key : String) (value : α) : ∀ entries : Entries α,
    (∀ e ∈ entries, e.1 < key) → insert key value entries = entries ++ [(key, value)] := by
  intro entries
  induction entries with
  | nil => exact fun _ => rfl
  | cons e rest ih =>
      intro hless
      obtain ⟨k, v⟩ := e
      have hk : k < key := hless (k, v) List.mem_cons_self
      have hne : key ≠ k := fun heq => String.lt_irrefl k (heq ▸ hk)
      unfold insert
      rw [if_neg (String.lt_asymm hk), if_neg hne,
        ih fun e he => hless e (List.mem_cons_of_mem _ he)]
      rfl

theorem mem_insert {key : String} {value : α} {e : String × α} : ∀ {entries : Entries α},
    e ∈ insert key value entries → e = (key, value) ∨ e ∈ entries := by
  intro entries
  induction entries with
  | nil => exact fun he => Or.inl (List.mem_singleton.mp he)
  | cons d rest ih =>
      intro he
      unfold insert at he
      split at he
      · exact List.mem_cons.mp he
      · split at he
        · rcases List.mem_cons.mp he with heq | he
          · exact Or.inl heq
          · exact Or.inr (List.mem_cons_of_mem d he)
        · rcases List.mem_cons.mp he with heq | he
          · exact Or.inr (List.mem_cons.mpr (Or.inl heq))
          · exact (ih he).imp_right (List.mem_cons_of_mem d)

/-- Entries in order bind a key to the value that stands with it. -/
theorem find?_of_mem {key : String} {value : α} : ∀ {entries : Entries α},
    Sorted entries → (key, value) ∈ entries → find? key entries = some value := by
  intro entries
  induction entries with
  | nil => exact fun _ he => by cases he
  | cons e rest ih =>
      obtain ⟨k, v⟩ := e
      intro hsorted he
      obtain ⟨hfirst, hrest⟩ := List.pairwise_cons.mp hsorted
      unfold find?
      rcases List.mem_cons.mp he with heq | he
      · cases heq
        rw [if_pos rfl]
      · have hne : k ≠ key := fun hsame => String.lt_irrefl k (hsame ▸ hfirst _ he)
        rw [if_neg hne]
        exact ih hrest he

/-- Entries stay in order when one more is put in. -/
theorem sorted_insert (key : String) (value : α) : ∀ {entries : Entries α},
    Sorted entries → Sorted (insert key value entries) := by
  intro entries
  induction entries with
  | nil => exact fun _ => List.pairwise_singleton _ _
  | cons e rest ih =>
      obtain ⟨k, v⟩ := e
      intro hsorted
      obtain ⟨hfirst, hrest⟩ := List.pairwise_cons.mp hsorted
      unfold insert
      split
      · case isTrue hless =>
        refine List.pairwise_cons.mpr ⟨fun e he => ?_, hsorted⟩
        rcases List.mem_cons.mp he with rfl | he
        · exact hless
        · exact String.lt_trans hless (hfirst e he)
      · case isFalse hless =>
        split
        · case isTrue hsame =>
          subst hsame
          exact List.pairwise_cons.mpr ⟨hfirst, hrest⟩
        · case isFalse hne =>
          refine List.pairwise_cons.mpr ⟨fun e he => ?_, ih hrest⟩
          rcases mem_insert he with rfl | he
          · exact Std.lt_of_le_of_ne (String.not_lt.mp hless) (Ne.symm hne)
          · exact hfirst e he

end Lookout.Entries
