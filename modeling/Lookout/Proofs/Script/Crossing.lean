/-
What a value becomes that goes into a script and comes out of it again untouched.

On the way in a value is written into cells, and nothing of it is lost but the integers that a
signed word does not hold.  `Written` says that a datum stands for a value in some cells: each
list and map has a cell of its own, and the cells of its parts were made before it.  So reading
it back meets no cell twice on one path, and comes to an end.  On the way out the integers that
32 bits do not hold become text.  All else comes back as it went in.
-/
import Lookout.Proofs.Arrays
import Lookout.Proofs.Value.Entries
import Lookout.Proofs.Value.Ordered
import Lookout.Script.Exchange

namespace Lookout

open Script (intText plainInt plainFloat)

/-! ### Values and their crossing -/

/-- Whether 32 bits hold an integer, as most scripting tools have it. -/
abbrev FitsHalfWord (n : Int) : Prop :=
  -0x80000000 ≤ n ∧ n < 0x80000000

/-- What comes back for a number. -/
def Number.crossed : Number → Value
  | .int n h =>
    if FitsHalfWord n then .number (.int n h)
    else if n < 0x8000000000000000 then .string (intText n)
    else (plainFloat (Float.ofInt n)).toValue
  | .float x h => .number (.float x h)

namespace Value

mutual

/-- What comes back for a value. -/
def crossed : Value → Value
  | number n => n.crossed
  | list items => list (crossedItems items)
  | map entries => map (crossedEntries entries)
  | v => v

/-- What comes back for the items of a list. -/
def crossedItems : List Value → List Value
  | [] => []
  | v :: vs => crossed v :: crossedItems vs

/-- What comes back for the entries of a map. -/
def crossedEntries : List (String × Value) → List (String × Value)
  | [] => []
  | (key, v) :: entries => (key, crossed v) :: crossedEntries entries

end

mutual

/-- Every integer in the value fits in 32 bits. -/
def IntegersFit : Value → Prop
  | number (.int n _) => FitsHalfWord n
  | list items => ItemsFit items
  | map entries => EntriesFit entries
  | _ => True

/-- Every integer in the items of a list fits in 32 bits. -/
def ItemsFit : List Value → Prop
  | [] => True
  | v :: vs => IntegersFit v ∧ ItemsFit vs

/-- Every integer in the entries of a map fits in 32 bits. -/
def EntriesFit : List (String × Value) → Prop
  | [] => True
  | (_, v) :: entries => IntegersFit v ∧ EntriesFit entries

end

/-! ### What comes back unchanged -/

/-- An integer that 32 bits do not hold comes back as something else. -/
theorem crossed_number_eq_iff (n : Number) :
    n.crossed = number n ↔ IntegersFit (number n) := by
  cases n with
  | float x h => exact ⟨fun _ => trivial, fun _ => rfl⟩
  | int n h =>
      show Number.crossed (.int n h) = number (.int n h) ↔ FitsHalfWord n
      unfold Number.crossed
      dsimp only
      by_cases hfits : FitsHalfWord n
      · rw [if_pos hfits]
        exact ⟨fun _ => hfits, fun _ => rfl⟩
      · rw [if_neg hfits]
        refine ⟨fun heq => ?_, fun h => absurd h hfits⟩
        split at heq
        · cases heq
        · -- what comes back is a float, and in no case an integer
          unfold plainFloat at heq
          split at heq
          · case _ m hm =>
            unfold Number.ofFloat? at hm
            split at hm
            · cases hm
              cases heq
            · cases hm
          · cases heq

mutual

/-- **A value comes back unchanged if and only if its integers fit in 32 bits.** -/
theorem crossed_eq_iff : ∀ v : Value, v.crossed = v ↔ v.IntegersFit
  | null => ⟨fun _ => trivial, fun _ => rfl⟩
  | bool _ => ⟨fun _ => trivial, fun _ => rfl⟩
  | number n => crossed_number_eq_iff n
  | string _ => ⟨fun _ => trivial, fun _ => rfl⟩
  | list items => by
      unfold crossed IntegersFit
      rw [list.injEq, crossedItems_eq_iff items]
  | map entries => by
      unfold crossed IntegersFit
      rw [map.injEq, crossedEntries_eq_iff entries]

theorem crossedItems_eq_iff : ∀ vs : List Value, crossedItems vs = vs ↔ ItemsFit vs
  | [] => ⟨fun _ => trivial, fun _ => rfl⟩
  | v :: vs => by
      unfold crossedItems ItemsFit
      rw [List.cons.injEq, crossed_eq_iff v, crossedItems_eq_iff vs]

theorem crossedEntries_eq_iff :
    ∀ entries : List (String × Value), crossedEntries entries = entries ↔ EntriesFit entries
  | [] => ⟨fun _ => trivial, fun _ => rfl⟩
  | (key, v) :: entries => by
      unfold crossedEntries EntriesFit
      rw [List.cons.injEq, Prod.mk.injEq, crossed_eq_iff v, crossedEntries_eq_iff entries]
      simp

end

end Value

namespace Script

/-! ### Writing a value into cells -/

mutual

/-- In some cells a datum stands for a value, written into cells from `low` on and below
`high`. -/
inductive Written (cells : Array Cell) (low : Addr) : Addr → Value → Datum → Prop
  | null {high : Addr} : Written cells low high .null .none
  | bool {high : Addr} (b : Bool) : Written cells low high (.bool b) (.bool b)
  | number {high : Addr} (n : Number) : Written cells low high (.number n) (Num.ofNumber n)
  | string {high : Addr} (s : String) : Written cells low high (.string s) (.string s)
  | list {high a : Addr} {items : List Value} {data : List Datum} (hlow : low ≤ a)
      (hhigh : a < high) (hcell : cells[a]? = some (.list data.toArray 0))
      (hitems : WrittenItems cells low a items data) :
      Written cells low high (.list items) (.list a)
  | map {high a : Addr} {entries : List (String × Value)} {data : List (Datum × Datum)}
      (hlow : low ≤ a) (hhigh : a < high) (hcell : cells[a]? = some (.dict data 0))
      (hentries : WrittenEntries cells low a entries data) :
      Written cells low high (.map entries) (.dict a)

/-- The data stand for the items of a list. -/
inductive WrittenItems (cells : Array Cell) (low : Addr) :
    Addr → List Value → List Datum → Prop
  | nil {high : Addr} : WrittenItems cells low high [] []
  | cons {high : Addr} {v : Value} {vs : List Value} {d : Datum} {ds : List Datum}
      (head : Written cells low high v d) (tail : WrittenItems cells low high vs ds) :
      WrittenItems cells low high (v :: vs) (d :: ds)

/-- The data stand for the entries of a map. -/
inductive WrittenEntries (cells : Array Cell) (low : Addr) :
    Addr → List (String × Value) → List (Datum × Datum) → Prop
  | nil {high : Addr} : WrittenEntries cells low high [] []
  | cons {high : Addr} {key : String} {v : Value} {entries : List (String × Value)} {d : Datum}
      {data : List (Datum × Datum)} (head : Written cells low high v d)
      (tail : WrittenEntries cells low high entries data) :
      WrittenEntries cells low high ((key, v) :: entries) ((.string key, d) :: data)

end

mutual

/-- Only the cells of a value count for what stands for it. -/
theorem Written.mono {cells cells' : Array Cell} {low low' high high' : Addr} {v : Value}
    {d : Datum} (hlow : low' ≤ low) (hhigh : high ≤ high')
    (hsame : ∀ a, low ≤ a → a < high → cells'[a]? = cells[a]?) :
    Written cells low high v d → Written cells' low' high' v d
  | .null => .null
  | .bool b => .bool b
  | .number n => .number n
  | .string s => .string s
  | .list hl hh hcell hitems =>
    .list (Nat.le_trans hlow hl) (Nat.lt_of_lt_of_le hh hhigh) ((hsame _ hl hh).trans hcell)
      (hitems.mono hlow (Nat.le_refl _) fun b hb hlt => hsame b hb (Nat.lt_trans hlt hh))
  | .map hl hh hcell hentries =>
    .map (Nat.le_trans hlow hl) (Nat.lt_of_lt_of_le hh hhigh) ((hsame _ hl hh).trans hcell)
      (hentries.mono hlow (Nat.le_refl _) fun b hb hlt => hsame b hb (Nat.lt_trans hlt hh))

theorem WrittenItems.mono {cells cells' : Array Cell} {low low' high high' : Addr}
    {vs : List Value} {ds : List Datum} (hlow : low' ≤ low) (hhigh : high ≤ high')
    (hsame : ∀ a, low ≤ a → a < high → cells'[a]? = cells[a]?) :
    WrittenItems cells low high vs ds → WrittenItems cells' low' high' vs ds
  | .nil => .nil
  | .cons head tail => .cons (head.mono hlow hhigh hsame) (tail.mono hlow hhigh hsame)

theorem WrittenEntries.mono {cells cells' : Array Cell} {low low' high high' : Addr}
    {entries : List (String × Value)} {data : List (Datum × Datum)} (hlow : low' ≤ low)
    (hhigh : high ≤ high') (hsame : ∀ a, low ≤ a → a < high → cells'[a]? = cells[a]?) :
    WrittenEntries cells low high entries data → WrittenEntries cells' low' high' entries data
  | .nil => .nil
  | .cons head tail => .cons (head.mono hlow hhigh hsame) (tail.mono hlow hhigh hsame)

end

/-- Cells that others were added to. -/
structure Grown (cells cells' : Array Cell) : Prop where
  size : cells.size ≤ cells'.size
  same : ∀ a < cells.size, cells'[a]? = cells[a]?

namespace Grown

theorem refl (cells : Array Cell) : Grown cells cells :=
  ⟨Nat.le_refl _, fun _ _ => rfl⟩

theorem trans {cells₁ cells₂ cells₃ : Array Cell} (h : Grown cells₁ cells₂)
    (h' : Grown cells₂ cells₃) : Grown cells₁ cells₃ where
  size := Nat.le_trans h.size h'.size
  same a ha := (h'.same a (Nat.lt_of_lt_of_le ha h.size)).trans (h.same a ha)

theorem push (cells : Array Cell) (c : Cell) : Grown cells (cells.push c) where
  size := by
    rw [Array.size_push]
    exact Nat.le_succ _
  same a ha := Array.getElem?_push_lt ha ▸ (Array.getElem?_eq_getElem ha).symm

end Grown

mutual

/-- A value that goes into a script is written into new cells, and nothing else happens. -/
theorem run_ofValue : ∀ (v : Value) (m : Machine), ∃ d cells,
    (Eval.ofValue Num.ofNumber v).run m = .ok d { m with cells := cells } ∧
      Grown m.cells cells ∧ Written cells m.cells.size cells.size v d
  | .null, m => ⟨.none, m.cells, rfl, .refl _, .null⟩
  | .bool b, m => ⟨.bool b, m.cells, rfl, .refl _, .bool b⟩
  | .number n, m => ⟨Num.ofNumber n, m.cells, rfl, .refl _, .number n⟩
  | .string s, m => ⟨.string s, m.cells, rfl, .refl _, .string s⟩
  | .list items, m => by
      obtain ⟨data, cells, hrun, hgrown, hitems⟩ := run_ofValues items m
      refine ⟨.list cells.size, cells.push (.list data.toArray 0), ?_,
        hgrown.trans (.push _ _), .list hgrown.size ?_ Array.getElem?_push_size ?_⟩
      · unfold Eval.ofValue
        rw [EStateM.run_bind, hrun]
        rfl
      · rw [Array.size_push]
        exact Nat.lt_succ_self _
      · exact hitems.mono (Nat.le_refl _) (Nat.le_refl _) fun a _ ha => (Grown.push _ _).same a ha
  | .map entries, m => by
      obtain ⟨data, cells, hrun, hgrown, hentries⟩ := run_ofEntries entries m
      refine ⟨.dict cells.size, cells.push (.dict data 0), ?_,
        hgrown.trans (.push _ _), .map hgrown.size ?_ Array.getElem?_push_size ?_⟩
      · unfold Eval.ofValue
        rw [EStateM.run_bind, hrun]
        rfl
      · rw [Array.size_push]
        exact Nat.lt_succ_self _
      · exact hentries.mono (Nat.le_refl _) (Nat.le_refl _) fun a _ ha =>
          (Grown.push _ _).same a ha

theorem run_ofValues : ∀ (vs : List Value) (m : Machine), ∃ data cells,
    (Eval.ofValues Num.ofNumber vs).run m = .ok data { m with cells := cells } ∧
      Grown m.cells cells ∧ WrittenItems cells m.cells.size cells.size vs data
  | [], m => ⟨[], m.cells, rfl, .refl _, .nil⟩
  | v :: vs, m => by
      obtain ⟨d, cells, hrun, hgrown, hhead⟩ := run_ofValue v m
      obtain ⟨data, cells', hrun', hgrown', htail⟩ := run_ofValues vs { m with cells := cells }
      refine ⟨d :: data, cells', ?_, hgrown.trans hgrown', .cons ?_ ?_⟩
      · unfold Eval.ofValues
        rw [EStateM.run_bind, hrun]
        dsimp only
        rw [EStateM.run_bind, hrun']
        rfl
      · exact hhead.mono (Nat.le_refl _) hgrown'.size fun a _ ha => hgrown'.same a ha
      · exact htail.mono hgrown.size (Nat.le_refl _) fun _ _ _ => rfl

theorem run_ofEntries : ∀ (entries : List (String × Value)) (m : Machine), ∃ data cells,
    (Eval.ofEntries Num.ofNumber entries).run m = .ok data { m with cells := cells } ∧
      Grown m.cells cells ∧ WrittenEntries cells m.cells.size cells.size entries data
  | [], m => ⟨[], m.cells, rfl, .refl _, .nil⟩
  | (key, v) :: entries, m => by
      obtain ⟨d, cells, hrun, hgrown, hhead⟩ := run_ofValue v m
      obtain ⟨data, cells', hrun', hgrown', htail⟩ :=
        run_ofEntries entries { m with cells := cells }
      refine ⟨(.string key, d) :: data, cells', ?_, hgrown.trans hgrown', .cons ?_ ?_⟩
      · unfold Eval.ofEntries
        rw [EStateM.run_bind, hrun]
        dsimp only
        rw [EStateM.run_bind, hrun']
        rfl
      · exact hhead.mono (Nat.le_refl _) hgrown'.size fun a _ ha => hgrown'.same a ha
      · exact htail.mono hgrown.size (Nat.le_refl _) fun _ _ _ => rfl

end

/-! ### Reading it back -/

/-- The document of a number that went into a script. -/
def numberDocument : Number → JsonDocument
  | .int n _ => if n < 0x8000000000000000 then plainInt n else plainFloat (Float.ofInt n)
  | .float x _ => plainFloat x

mutual

/-- The document of a value that went into a script. -/
def document : Value → JsonDocument
  | .null => .null
  | .bool b => .bool b
  | .number n => numberDocument n
  | .string s => .string s
  | .list items => .array (documents items)
  | .map entries => .object (memberDocuments entries)

/-- The documents of the items of a list. -/
def documents : List Value → List JsonDocument
  | [] => []
  | v :: vs => document v :: documents vs

/-- The members that the entries of a map become. -/
def memberDocuments : List (String × Value) → List (String × JsonDocument)
  | [] => []
  | (key, v) :: entries => (key, document v) :: memberDocuments entries

end

theorem plain_ofNumber (cell : Addr → Except NotPlain JsonDocument) (n : Number) :
    (Num.ofNumber n).plain cell = .ok (numberDocument n) := by
  cases n with
  | float x h => rfl
  | int n h =>
      unfold Num.ofNumber numberDocument
      dsimp only
      split
      · rfl
      · rfl

/-- What is below an address is below the whole of a path that leads on from it. -/
theorem le_of_mem_path {a high : Addr} {path : List Addr} (hlt : a < high)
    (hpath : ∀ b ∈ path, high ≤ b) : path.contains a = false ∧ ∀ b ∈ a :: path, a ≤ b := by
  constructor
  · rw [List.contains_eq_mem, decide_eq_false_iff_not]
    exact fun ha => Nat.not_le_of_lt hlt (hpath a ha)
  · intro b hb
    rcases List.mem_cons.mp hb with rfl | hb
    · exact Nat.le_refl _
    · exact Nat.le_trans (Nat.le_of_lt hlt) (hpath b hb)

section Reading

variable {m : Machine} {low : Addr}

mutual

/-- A datum that stands for a value is plain.  Along a path the addresses get smaller, so no cell
is met twice, and there is fuel for each of them. -/
theorem plain_of_written : ∀ (v : Value) {high : Addr} {d : Datum} {fuel : Nat}
    {path : List Addr}, Written m.cells low high v d → high ≤ fuel → (∀ b ∈ path, high ≤ b) →
      d.plain (m.plainCell fuel path) = .ok (document v)
  | .null, _, _, _, _, .null, _, _ => rfl
  | .bool _, _, _, _, _, .bool _, _, _ => rfl
  | .number n, _, _, _, _, .number _, _, _ => plain_ofNumber _ n
  | .string _, _, _, _, _, .string _, _, _ => rfl
  | .list items, high, _, fuel, path, h, hfuel, hpath => by
      cases h with
      | @list _ a _ data hlow hhigh hcell hitems =>
          obtain ⟨f, rfl⟩ : ∃ f, fuel = f + 1 :=
            Nat.exists_eq_add_one.mpr (Nat.zero_lt_of_lt (Nat.lt_of_lt_of_le hhigh hfuel))
          obtain ⟨hnew, hbelow⟩ := le_of_mem_path hhigh hpath
          have hread : (m.items a).toList = data := by
            unfold Machine.items
            rw [hcell]
          have ha : a ≤ f := Nat.le_of_lt_succ (Nat.lt_of_lt_of_le hhigh hfuel)
          unfold Datum.plain Machine.plainCell
          rw [hcell]
          dsimp only
          rw [hnew, if_neg Bool.false_ne_true, hread, plain_of_writtenItems items hitems ha hbelow]
          rfl
  | .map entries, high, _, fuel, path, h, hfuel, hpath => by
      cases h with
      | @map _ a _ data hlow hhigh hcell hentries =>
          obtain ⟨f, rfl⟩ : ∃ f, fuel = f + 1 :=
            Nat.exists_eq_add_one.mpr (Nat.zero_lt_of_lt (Nat.lt_of_lt_of_le hhigh hfuel))
          obtain ⟨hnew, hbelow⟩ := le_of_mem_path hhigh hpath
          have ha : a ≤ f := Nat.le_of_lt_succ (Nat.lt_of_lt_of_le hhigh hfuel)
          unfold Datum.plain Machine.plainCell
          rw [hcell]
          dsimp only
          rw [hnew, if_neg Bool.false_ne_true,
            plain_of_writtenEntries entries hentries ha hbelow]
          rfl

theorem plain_of_writtenItems : ∀ (vs : List Value) {high : Addr} {ds : List Datum} {fuel : Nat}
    {path : List Addr}, WrittenItems m.cells low high vs ds → high ≤ fuel →
      (∀ b ∈ path, high ≤ b) → plainItems (m.plainCell fuel path) ds = .ok (documents vs)
  | [], _, _, _, _, .nil, _, _ => rfl
  | v :: vs, _, _, _, _, .cons head tail, hfuel, hpath => by
      unfold plainItems
      rw [plain_of_written v head hfuel hpath, plain_of_writtenItems vs tail hfuel hpath]
      rfl

theorem plain_of_writtenEntries : ∀ (entries : List (String × Value)) {high : Addr}
    {data : List (Datum × Datum)} {fuel : Nat} {path : List Addr},
    WrittenEntries m.cells low high entries data → high ≤ fuel → (∀ b ∈ path, high ≤ b) →
      plainEntries (m.plainCell fuel path) data = .ok (memberDocuments entries)
  | [], _, _, _, _, .nil, _, _ => rfl
  | (_, v) :: entries, _, _, _, _, .cons head tail, hfuel, hpath => by
      unfold plainEntries
      rw [plain_of_written v head hfuel hpath, plain_of_writtenEntries entries tail hfuel hpath]
      rfl

end

end Reading

/-! ### The documents as values -/

theorem toValue_numberDocument (n : Number) : (numberDocument n).toValue = n.crossed := by
  cases n with
  | float x h =>
      unfold numberDocument Number.crossed plainFloat Number.ofFloat?
      dsimp only
      rw [dif_pos h]
      rfl
  | int n h =>
      unfold numberDocument Number.crossed plainInt Number.ofInt?
      dsimp only
      by_cases hfits : FitsHalfWord n
      · have hsmall : n < 0x8000000000000000 := Int.lt_trans hfits.2 (by decide)
        rw [if_pos hsmall, if_pos hfits, if_pos hfits, dif_pos h]
        rfl
      · rw [if_neg hfits, if_neg hfits]
        split
        · rfl
        · rfl

mutual

/-- What is read back for a value whose maps are in order. -/
theorem toValue_document : ∀ v : Value, v.Ordered → (document v).toValue = v.crossed
  | .null, _ => rfl
  | .bool _, _ => rfl
  | .number n, _ => toValue_numberDocument n
  | .string _, _ => rfl
  | .list items, h => congrArg Value.list (toValues_documents items h)
  | .map entries, h => by
      have hentries := toEntries_memberDocuments entries [] h.1 h.2 fun e he => by cases he
      exact congrArg Value.map hentries

theorem toValues_documents : ∀ vs : List Value, Value.ItemsOrdered vs →
    JsonDocument.toValues (documents vs) = Value.crossedItems vs
  | [], _ => rfl
  | v :: vs, h => by
      unfold documents JsonDocument.toValues Value.crossedItems
      rw [toValue_document v h.1, toValues_documents vs h.2]

/-- Members that come in order are entered one behind the other. -/
theorem toEntries_memberDocuments : ∀ entries before : List (String × Value),
    Entries.Sorted entries → Value.EntriesOrdered entries →
    (∀ e ∈ before, ∀ f ∈ entries, e.1 < f.1) →
    JsonDocument.toEntries before (memberDocuments entries)
      = before ++ Value.crossedEntries entries
  | [], before, _, _, _ => (List.append_nil before).symm
  | (key, v) :: entries, before, hsorted, hordered, hbefore => by
      obtain ⟨hfirst, hsorted⟩ := List.pairwise_cons.mp hsorted
      unfold memberDocuments JsonDocument.toEntries Value.crossedEntries
      rw [toValue_document v hordered.1,
        Entries.insert_last key _ before fun e he => hbefore e he _ List.mem_cons_self,
        toEntries_memberDocuments entries _ hsorted hordered.2 ?_, List.append_assoc]
      · rfl
      · intro e he f hf
        rcases List.mem_append.mp he with he | he
        · exact hbefore e he f (List.mem_cons_of_mem _ hf)
        · rw [List.mem_singleton.mp he]
          exact hfirst f hf

end

/-- What is read back for a datum that stands for a value in some of the cells. -/
theorem toValue_of_written {m : Machine} {low high : Addr} {v : Value} {d : Datum}
    (h : Written m.cells low high v d) (hhigh : high ≤ m.cells.size) (hv : v.Ordered) :
    m.toValue d = .ok v.crossed := by
  have hplain : m.plain d = .ok (document v) :=
    plain_of_written v h (Nat.le_trans hhigh (Nat.le_add_right _ 2)) fun b hb => by cases hb
  unfold Machine.toValue
  rw [hplain, ← toValue_document v hv]
  rfl

end Script

end Lookout
