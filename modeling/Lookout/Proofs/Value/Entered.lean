/-
What is held once a whole sequence of pairs was put in.

Each key is bound to the value that came last with it, and the entries are in order.  That is all
there is to say: entries in order are told apart by what they bind, so two sequences with the same
last values make the same entries, in whatever order their pairs come.  A sequence that is in order
already is held as it is.
-/
import Lookout.Proofs.Value.Entries

namespace Lookout.Entries

variable {α β : Type} {entries others : Entries α} {pairs : List (String × α)}

/-! ### Entries in order -/

/-- A key in front of all others is bound to nothing. -/
theorem find?_of_lt {key : String} : ∀ {entries : Entries α},
    (∀ e ∈ entries, key < e.1) → find? key entries = none := by
  intro entries
  induction entries with
  | nil => exact fun _ => rfl
  | cons e rest ih =>
      intro hless
      obtain ⟨k, v⟩ := e
      have hk : key < k := hless (k, v) List.mem_cons_self
      have hne : k ≠ key := fun heq => String.lt_irrefl k (heq ▸ hk)
      unfold find?
      rw [if_neg hne]
      exact ih fun e he => hless e (List.mem_cons_of_mem _ he)

/-- Entries in order that bind what others bind do not begin behind the others. -/
theorem le_of_find? {k l : String} {v w : α} {rest rest' : Entries α}
    (hsorted : Sorted ((l, w) :: rest'))
    (hsame : ∀ key, find? key ((k, v) :: rest) = find? key ((l, w) :: rest')) : l ≤ k := by
  refine String.not_lt.mp fun hless => ?_
  have hnone : find? k ((l, w) :: rest') = none := by
    refine find?_of_lt (List.forall_mem_cons.mpr ⟨hless, fun e he => ?_⟩)
    exact String.lt_trans hless ((List.pairwise_cons.mp hsorted).1 e he)
  have hsome : find? k ((k, v) :: rest) = some v := if_pos rfl
  rw [← hsame, hsome] at hnone
  cases hnone

/-- **Entries in order are told apart by what they bind.** -/
theorem ext_of_find? : ∀ {entries others : Entries α}, Sorted entries → Sorted others →
    (∀ key, find? key entries = find? key others) → entries = others := by
  intro entries
  induction entries with
  | nil =>
      intro others _ _ hsame
      cases others with
      | nil => rfl
      | cons e rest =>
          have hfirst : none = some e.2 := (hsame e.1).trans (if_pos rfl)
          cases hfirst
  | cons e rest ih =>
      intro others hsorted hsorted' hsame
      obtain ⟨k, v⟩ := e
      cases others with
      | nil =>
          have hfirst : some v = none := (if_pos rfl : find? k ((k, v) :: rest) = _) ▸ hsame k
          cases hfirst
      | cons e' rest' =>
          obtain ⟨l, w⟩ := e'
          have hkey : k = l := String.le_antisymm
            (le_of_find? hsorted fun key => (hsame key).symm) (le_of_find? hsorted' hsame)
          subst hkey
          have hvalue : some v = some w :=
            (if_pos rfl : find? k ((k, v) :: rest) = _) ▸ (hsame k).trans (if_pos rfl)
          cases hvalue
          obtain ⟨hfirst, hrest⟩ := List.pairwise_cons.mp hsorted
          obtain ⟨hfirst', hrest'⟩ := List.pairwise_cons.mp hsorted'
          have htail : rest = rest' := ih hrest hrest' fun key => by
            by_cases hk : k = key
            · subst hk
              rw [find?_of_lt hfirst, find?_of_lt hfirst']
            · have h := hsame key
              unfold find? at h
              rwa [if_neg hk, if_neg hk] at h
          rw [htail]

/-! ### A sequence of pairs -/

/-- Pairs put in one after the other. -/
def enter (entries : Entries α) (pairs : List (String × α)) : Entries α :=
  pairs.foldl (fun es p => es.insert p.1 p.2) entries

/-- The value of the last pair with a key. -/
def last? (key : String) (pairs : List (String × α)) : Option α :=
  (pairs.filter fun p => p.1 = key).getLast?.map (·.2)

theorem enter_cons (key : String) (value : α) (pairs : List (String × α)) (entries : Entries α) :
    enter entries ((key, value) :: pairs) = enter (entries.insert key value) pairs := rfl

theorem last?_cons (key k : String) (value : α) (pairs : List (String × α)) :
    last? k ((key, value) :: pairs)
      = (last? k pairs).or (if key = k then some value else none) := by
  unfold last?
  by_cases hk : key = k
  · rw [List.filter_cons_of_pos (by simpa using hk), if_pos hk, List.getLast?_cons]
    cases (pairs.filter fun p => p.1 = k).getLast? with
    | none => rfl
    | some p => rfl
  · rw [List.filter_cons_of_neg (by simpa using hk), if_neg hk, Option.or_none]

/-- Each key is bound to the value that came last with it, or else to what it was bound to. -/
theorem find?_enter (key : String) : ∀ (pairs : List (String × α)) (entries : Entries α),
    find? key (enter entries pairs) = (last? key pairs).or (find? key entries) := by
  intro pairs
  induction pairs with
  | nil => exact fun _ => rfl
  | cons p pairs ih =>
      intro entries
      obtain ⟨k, v⟩ := p
      rw [enter_cons, ih, find?_insert, last?_cons, Option.or_assoc]
      by_cases hk : k = key
      · rw [if_pos hk, if_pos hk, Option.some_or]
      · rw [if_neg hk, if_neg hk, Option.none_or]

theorem sorted_enter : ∀ (pairs : List (String × α)) {entries : Entries α},
    Sorted entries → Sorted (enter entries pairs) := by
  intro pairs
  induction pairs with
  | nil => exact fun h => h
  | cons p pairs ih => exact fun h => ih (sorted_insert p.1 p.2 h)

/-- Only the last value of each key counts. -/
theorem enter_eq_of_last? {pairs' : List (String × α)} (hsorted : Sorted entries)
    (hsame : ∀ key, last? key pairs = last? key pairs') :
    enter entries pairs = enter entries pairs' := by
  refine ext_of_find? (sorted_enter pairs hsorted) (sorted_enter pairs' hsorted) fun key => ?_
  rw [find?_enter, find?_enter, hsame]

/-- Pairs that come in order behind the entries are added to their end. -/
theorem enter_of_sorted : ∀ (pairs entries : Entries α), Sorted (entries ++ pairs) →
    enter entries pairs = entries ++ pairs := by
  intro pairs
  induction pairs with
  | nil => exact fun entries _ => (List.append_nil entries).symm
  | cons p pairs ih =>
      intro entries hsorted
      obtain ⟨k, v⟩ := p
      have hlast : ∀ e ∈ entries, e.1 < k := fun e he =>
        (List.pairwise_append.mp hsorted).2.2 e he (k, v) List.mem_cons_self
      have hnext : Sorted (entries ++ [(k, v)] ++ pairs) := by
        rw [List.append_assoc]
        exact hsorted
      rw [enter_cons, insert_last k v entries hlast, ih _ hnext, List.append_assoc]
      rfl

/-! ### Other values under the same keys -/

/-- Entries with a function applied to what they bind. -/
def mapValues (f : α → β) (entries : Entries α) : Entries β :=
  entries.map fun e => (e.1, f e.2)

theorem sorted_mapValues {f : α → β} (h : Sorted entries) : Sorted (mapValues f entries) :=
  List.pairwise_map.mpr h

theorem mapValues_insert (f : α → β) (key : String) (value : α) : ∀ entries : Entries α,
    mapValues f (entries.insert key value) = (mapValues f entries).insert key (f value) := by
  intro entries
  induction entries with
  | nil => rfl
  | cons e rest ih =>
      obtain ⟨k, v⟩ := e
      show mapValues f (insert key value ((k, v) :: rest))
        = insert key (f value) ((k, f v) :: mapValues f rest)
      unfold insert
      by_cases hless : key < k
      · rw [if_pos hless, if_pos hless]
        rfl
      · rw [if_neg hless, if_neg hless]
        by_cases hsame : key = k
        · rw [if_pos hsame, if_pos hsame]
          rfl
        · rw [if_neg hsame, if_neg hsame, ← ih]
          rfl

theorem mapValues_enter (f : α → β) : ∀ (pairs : List (String × α)) (entries : Entries α),
    mapValues f (enter entries pairs) = enter (mapValues f entries) (mapValues f pairs) := by
  intro pairs
  induction pairs with
  | nil => exact fun _ => rfl
  | cons p pairs ih =>
      intro entries
      obtain ⟨k, v⟩ := p
      rw [enter_cons, ih, mapValues_insert]
      rfl

theorem last?_mapValues (f : α → β) (key : String) (pairs : List (String × α)) :
    last? key (mapValues f pairs) = (last? key pairs).map f := by
  unfold last? mapValues
  rw [List.filter_map, List.getLast?_map, Option.map_map, Option.map_map]
  rfl

end Lookout.Entries
