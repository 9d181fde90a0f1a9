/-
What a dotted path leads to.

A path is split at its dots, and its pieces are followed one after the other.  Splitting undoes
joining for pieces without a dot, and following comes apart wherever the pieces do, so a path with a
dot between two others is the first and then the second.  The empty path is the one exception: it
stands for no piece at all, and not for one empty piece.

Going down through keys and positions writes such pieces: a key without a dot is its own piece, and
a position is the digits of its number, which are read back as that number.
-/
import Lookout.Proofs.Value.Ordered
import Lookout.Value.Pointer

namespace Lookout

/-! ### Positions -/

/-- Digits of a number that fits a word, and perhaps a plus sign in front of them. -/
def WritesPosition (cs : List Char) (n : Nat) : Prop :=
  ∃ digits, (cs = digits ∨ cs = '+' :: digits) ∧ digits ≠ [] ∧
    (∀ c ∈ digits, c.isDigit = true) ∧ Nat.ofDigitChars 10 digits 0 = n ∧ n < wordBound

theorem decimalDigits?_eq_some {cs : List Char} {n : Nat} : decimalDigits? cs = some n ↔
    cs ≠ [] ∧ (∀ c ∈ cs, c.isDigit = true) ∧ Nat.ofDigitChars 10 cs 0 = n := by
  unfold decimalDigits?
  split
  · case isTrue h =>
    simp only [Bool.and_eq_true, Bool.not_eq_true', List.isEmpty_eq_false_iff,
      List.all_eq_true] at h
    rw [Option.some.injEq]
    exact ⟨fun hn => ⟨h.1, h.2, hn⟩, fun hn => hn.2.2⟩
  · case isFalse h =>
    refine ⟨fun hn => (by cases hn), fun hn => absurd ?_ h⟩
    simp only [Bool.and_eq_true, Bool.not_eq_true', List.isEmpty_eq_false_iff,
      List.all_eq_true]
    exact ⟨hn.1, hn.2.1⟩

/-- What is read as a position is what writes one. -/
theorem unsigned64?_eq_some {cs : List Char} {n : Nat} :
    unsigned64? cs = some n ↔ WritesPosition cs n := by
  unfold unsigned64? WritesPosition
  dsimp only
  rw [Option.filter_eq_some_iff, decimalDigits?_eq_some, decide_eq_true_eq]
  split
  · case _ rest =>
    constructor
    · rintro ⟨⟨hne, hdigits, hn⟩, hlt⟩
      exact ⟨rest, Or.inr rfl, hne, hdigits, hn, hlt⟩
    · rintro ⟨digits, rfl | hcs, hne, hdigits, hn, hlt⟩
      · -- a plus sign is no digit
        exact absurd (hdigits '+' List.mem_cons_self) (by decide)
      · cases hcs
        exact ⟨⟨hne, hdigits, hn⟩, hlt⟩
  · case _ hplus =>
    constructor
    · rintro ⟨⟨hne, hdigits, hn⟩, hlt⟩
      exact ⟨cs, Or.inl rfl, hne, hdigits, hn, hlt⟩
    · rintro ⟨digits, rfl | hcs, hne, hdigits, hn, hlt⟩
      · exact ⟨⟨hne, hdigits, hn⟩, hlt⟩
      · exact absurd hcs (hplus digits)

/-- The decimal text of a position is read back as that position. -/
theorem unsigned64?_digits {n : Nat} (h : n < wordBound) :
    unsigned64? (toString n).toList = some n := by
  have htext : (toString n).toList = Nat.toDigits 10 n := String.toList_ofList
  rw [htext, unsigned64?_eq_some]
  exact ⟨_, Or.inl rfl, Nat.toDigits_ne_nil,
    fun c hc => Nat.isDigit_of_mem_toDigits (by decide) (by decide) hc,
    Nat.ofDigitChars_ten_toDigits, h⟩

/-! ### Pieces -/

theorem splitAt_eq_splitOn (separator : Char) : ∀ cs : List Char,
    splitAt separator cs = cs.splitOn separator := by
  intro cs
  induction cs with
  | nil => rfl
  | cons c rest ih =>
      obtain ⟨piece, pieces, hsplit⟩ :=
        List.exists_cons_of_ne_nil (List.splitOn_ne_nil separator rest)
      unfold splitAt
      rw [List.splitOn_cons_eq_if_modifyHead, ih, hsplit]
      simp only [beq_iff_eq, List.modifyHead_cons]

namespace Value

/-- Pieces in two parts are followed part by part. -/
theorem follow?_append (last : List (List Char)) : ∀ (first : List (List Char)) (v : Value),
    follow? (first ++ last) v = (follow? first v).bind (follow? last) := by
  intro first
  induction first with
  | nil => exact fun _ => rfl
  | cons segment rest ih =>
      intro v
      show (v.step? segment).bind (follow? (rest ++ last))
        = ((v.step? segment).bind (follow? rest)).bind (follow? last)
      cases v.step? segment with
      | none => rfl
      | some w => exact ih w

/-- What one piece leads to, by the two lookups that there are. -/
def lookup? (segment : String) (v : Value) : Option Value :=
  match v with
  | map _ => v.get? segment
  | list _ => (unsigned64? segment.toList).bind (v.item? ·)
  | _ => none

theorem step?_eq_lookup? (segment : String) (v : Value) :
    v.step? segment.toList = v.lookup? segment := by
  cases v with
  | map entries =>
      show Entries.find? (String.ofList segment.toList) entries = Entries.find? segment entries
      rw [String.ofList_toList]
  | _ => rfl

theorem follow?_eq_foldlM : ∀ (segments : List String) (v : Value),
    follow? (segments.map String.toList) v = segments.foldlM (fun w s => w.lookup? s) v := by
  intro segments
  induction segments with
  | nil => exact fun _ => rfl
  | cons segment rest ih =>
      intro v
      show (v.step? segment.toList).bind (follow? (rest.map String.toList))
        = (v.lookup? segment).bind (rest.foldlM fun w s => w.lookup? s)
      rw [step?_eq_lookup?]
      cases v.lookup? segment with
      | none => rfl
      | some w => exact ih w

/-! ### Paths -/

theorem pointer?_of_ne {path : String} (h : path ≠ "") (v : Value) :
    v.pointer? path = follow? (path.toList.splitOn '.') v := by
  unfold pointer?
  rw [if_neg (by rwa [String.isEmpty_iff]), splitAt_eq_splitOn]

/-- Only a single empty piece is joined to an empty path. -/
theorem intercalate_ne_empty {segments : List String} (hne : segments ≠ [])
    (hlone : segments ≠ [""]) : ".".intercalate segments ≠ "" := by
  intro hempty
  cases segments with
  | nil => exact hne rfl
  | cons segment rest =>
      cases rest with
      | nil =>
          rw [String.intercalate_singleton] at hempty
          exact hlone (by rw [hempty])
      | cons next rest =>
          rw [String.intercalate_cons_cons] at hempty
          have hlength := congrArg String.length hempty
          simp only [String.length_append] at hlength
          have hdot : ".".length = 1 := rfl
          have hzero : "".length = 0 := rfl
          omega

theorem splitOn_intercalate_dot {segments : List String} (hne : segments ≠ [])
    (hplain : ∀ s ∈ segments, '.' ∉ s.toList) :
    (".".intercalate segments).toList.splitOn '.' = segments.map String.toList := by
  rw [String.toList_intercalate]
  refine List.splitOn_intercalate '.' (fun cs hcs => ?_) (by simpa using hne)
  obtain ⟨s, hs, rfl⟩ := List.mem_map.mp hcs
  exact hplain s hs

/-- Joined pieces are followed one after the other. -/
theorem pointer?_intercalate {segments : List String} (hne : segments ≠ [])
    (hlone : segments ≠ [""]) (hplain : ∀ s ∈ segments, '.' ∉ s.toList) (v : Value) :
    v.pointer? (".".intercalate segments) = segments.foldlM (fun w s => w.lookup? s) v := by
  rw [pointer?_of_ne (intercalate_ne_empty hne hlone), splitOn_intercalate_dot hne hplain,
    follow?_eq_foldlM]

/-- A path with a dot between two others is the first and then the second. -/
theorem pointer?_dot {p q : String} (hp : p ≠ "") (hq : q ≠ "") (v : Value) :
    v.pointer? (p ++ "." ++ q) = (v.pointer? p).bind (pointer? q) := by
  have hne : p ++ "." ++ q ≠ "" := fun h => by
    have hlength := congrArg String.length h
    simp only [String.length_append] at hlength
    have hdot : ".".length = 1 := rfl
    have hzero : "".length = 0 := rfl
    omega
  have hsplit : (p ++ "." ++ q).toList.splitOn '.'
      = p.toList.splitOn '.' ++ q.toList.splitOn '.' := by
    rw [String.toList_append, String.toList_append, List.append_assoc]
    exact List.splitOn_append_cons_self _ _
  have hsecond : pointer? q = follow? (q.toList.splitOn '.') := funext fun w => pointer?_of_ne hq w
  rw [pointer?_of_ne hne, pointer?_of_ne hp, hsecond, hsplit, follow?_append]

/-! ### Parts of a value -/

/-- `w` is the part of a value below which the keys and positions of a path lead.  A key may not
have a dot in it, and a position is a word. -/
inductive Below : Value → List String → Value → Prop
  | here (v : Value) : Below v [] v
  | entry {entries : List (String × Value)} {key : String} {v w : Value} {path : List String}
      (member : (key, v) ∈ entries) (plain : '.' ∉ key.toList) (rest : Below v path w) :
      Below (map entries) (key :: path) w
  | item {items : List Value} {i : Nat} {v w : Value} {path : List String}
      (member : items[i]? = some v) (fits : i < wordBound) (rest : Below v path w) :
      Below (list items) (toString i :: path) w

variable {v w : Value} {path : List String}

theorem Below.plain (h : Below v path w) : ∀ s ∈ path, '.' ∉ s.toList := by
  induction h with
  | here v => exact fun s hs => by cases hs
  | entry member plain rest ih => exact List.forall_mem_cons.mpr ⟨plain, ih⟩
  | item member fits rest ih =>
      refine List.forall_mem_cons.mpr ⟨fun hdot => ?_, ih⟩
      have hdigits : '.' ∈ Nat.toDigits 10 _ := String.toList_ofList ▸ hdot
      exact absurd (Nat.isDigit_of_mem_toDigits (by decide) (by decide) hdigits) (by decide)

/-- A part of a value is found by its keys and positions, one after the other. -/
theorem Below.found (h : Below v path w) (hordered : v.Ordered) :
    path.foldlM (fun w s => w.lookup? s) v = some w := by
  induction h with
  | here v => rfl
  | @entry entries key v w path member plain rest ih =>
      have hfound : (map entries).lookup? key = some v := Entries.find?_of_mem hordered.1 member
      rw [List.foldlM_cons, hfound]
      exact ih (hordered.2.of_find? hfound)
  | @item items i v w path member fits rest ih =>
      have hfound : (list items).lookup? (toString i) = some v := by
        unfold lookup?
        dsimp only
        rw [unsigned64?_digits fits]
        exact member
      rw [List.foldlM_cons, hfound]
      exact ih (hordered.of_getElem? member)

/-- A part of a value is what its dotted path leads to. -/
theorem Below.pointer? (h : Below v path w) (hordered : v.Ordered) (hlone : path ≠ [""]) :
    v.pointer? (".".intercalate path) = some w := by
  cases path with
  | nil =>
      cases h
      rfl
  | cons segment rest =>
      rw [pointer?_intercalate (List.cons_ne_nil segment rest) hlone h.plain]
      exact h.found hordered

/-- **A dotted path is followed piece by piece.**  So two paths with a dot between them are followed
one after the other, and each part of a value is found at its own path.  Only the lone empty piece
is lost, since the empty path stands for the value itself. -/
theorem pointer?_follows (v : Value) :
    (∀ segments : List String, segments ≠ [] → segments ≠ [""] →
      (∀ s ∈ segments, '.' ∉ s.toList) →
      v.pointer? (".".intercalate segments) = segments.foldlM (fun w s => w.lookup? s) v) ∧
    (∀ p q : String, p ≠ "" → q ≠ "" →
      v.pointer? (p ++ "." ++ q) = (v.pointer? p).bind (Value.pointer? q)) ∧
    ∀ path w, v.Ordered → v.Below path w → path ≠ [""] →
      v.pointer? (".".intercalate path) = some w :=
  ⟨fun _ hne hlone hplain => pointer?_intercalate hne hlone hplain v,
    fun _ _ hp hq => pointer?_dot hp hq v,
    fun _ _ hordered hbelow hlone => hbelow.pointer? hordered hlone⟩

/-- A list below an empty key, with an empty key and one that is cut in two below it. -/
theorem pointer?_follows_hits :
    let v : Value := map [("", map [("hits", list [null, map [("", bool true), ("a.b", null)]])])]
    v.pointer? ".hits.1." = some (bool true) ∧ v.pointer? ".hits.+01." = some (bool true) ∧
      v.pointer? ".hits.1.a.b" = none ∧ v.pointer? "" = some v := by
  intro v
  have hordered : v.Ordered := by
    simp only [v, Ordered, EntriesOrdered, ItemsOrdered, Entries.Sorted, and_true, true_and]
    decide
  have hitem : Below (list [null, map [("", bool true), ("a.b", null)]]) ["1", ""] (bool true) :=
    .item (i := 1) rfl (by decide) (.entry (.head _) (by decide) (.here _))
  have hbelow : v.Below ["", "hits", "1", ""] (bool true) :=
    .entry (.head _) (by decide) (.entry (.head _) (by decide) hitem)
  obtain ⟨hfold, hdot, hparts⟩ := pointer?_follows v
  exact ⟨hparts _ _ hordered hbelow (by decide),
    hfold ["", "hits", "+01", ""] (by decide) (by decide) (by decide),
    hdot ".hits.1" "a.b" (by decide) (by decide), rfl⟩

end Value
end Lookout
