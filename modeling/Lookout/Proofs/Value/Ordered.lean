/-
Values whose maps are in order.

A map holds each key once, and in the order of the keys.  The type of values does not say so, but
whatever builds a map puts its entries in one after the other, and that keeps it: it is what makes
two maps with the same entries the same map.
-/
import Lookout.Json.Document
import Lookout.Proofs.Value.Entries
import Lookout.Value.Token

namespace Lookout.Value

mutual

/-- The entries of all maps are in the order of their keys, each key once. -/
def Ordered : Value → Prop
  | list items => ItemsOrdered items
  | map entries => Entries.Sorted entries ∧ EntriesOrdered entries
  | _ => True

/-- The items of a list are ordered values. -/
def ItemsOrdered : List Value → Prop
  | [] => True
  | v :: vs => Ordered v ∧ ItemsOrdered vs

/-- The entries of a map hold ordered values. -/
def EntriesOrdered : List (String × Value) → Prop
  | [] => True
  | (_, v) :: entries => Ordered v ∧ EntriesOrdered entries

end

theorem EntriesOrdered.insert {key : String} {value : Value} (hvalue : value.Ordered) :
    ∀ {entries : List (String × Value)}, EntriesOrdered entries →
      EntriesOrdered (Entries.insert key value entries) := by
  intro entries
  induction entries with
  | nil => exact fun _ => ⟨hvalue, trivial⟩
  | cons e rest ih =>
      intro h
      unfold Entries.insert
      split
      · exact ⟨hvalue, h⟩
      · split
        · exact ⟨hvalue, h.2⟩
        · exact ⟨h.1, ih h.2⟩

/-- What an ordered map binds a key to is ordered. -/
theorem EntriesOrdered.of_find? {key : String} {value : Value} :
    ∀ {entries : List (String × Value)}, EntriesOrdered entries →
      Entries.find? key entries = some value → value.Ordered := by
  intro entries
  induction entries with
  | nil =>
      intro _ found
      cases found
  | cons e rest ih =>
      intro ordered found
      unfold Entries.find? at found
      split at found
      · cases found
        exact ordered.1
      · exact ih ordered.2 found

/-- The items of an ordered list are ordered. -/
theorem ItemsOrdered.of_getElem? {value : Value} : ∀ {items : List Value} {i : Nat},
    ItemsOrdered items → items[i]? = some value → value.Ordered := by
  intro items
  induction items with
  | nil =>
      intro i _ found
      cases found
  | cons item rest ih =>
      intro i ordered found
      cases i with
      | zero =>
          cases found
          exact ordered.1
      | succ i => exact ih ordered.2 found

mutual

/-- A document is decoded into an ordered value. -/
theorem ordered_toValue : ∀ document : JsonDocument, document.toValue.Ordered
  | .null => trivial
  | .bool _ => trivial
  | .number _ => trivial
  | .string _ => trivial
  | .array items => itemsOrdered_toValues items
  | .object members => ordered_toEntries members List.Pairwise.nil trivial

theorem itemsOrdered_toValues : ∀ items : List JsonDocument,
    ItemsOrdered (JsonDocument.toValues items)
  | [] => trivial
  | item :: items => ⟨ordered_toValue item, itemsOrdered_toValues items⟩

theorem ordered_toEntries {entries : List (String × Value)} :
    ∀ members : List (String × JsonDocument), Entries.Sorted entries → EntriesOrdered entries →
      (map (JsonDocument.toEntries entries members)).Ordered
  | [], hsorted, hordered => ⟨hsorted, hordered⟩
  | (name, member) :: members, hsorted, hordered =>
      ordered_toEntries members (Entries.sorted_insert name member.toValue hsorted)
        (hordered.insert (ordered_toValue member))

end

/-! ### Decoding data -/

theorem ordered_ofInt (n : Int) : (ofInt n).Ordered := by
  unfold ofInt
  split <;> trivial

theorem ordered_ofFloat (x : Float) : (ofFloat x).Ordered := by
  unfold ofFloat
  split <;> trivial

theorem ordered_ofSignedWide (n : Int) : (ofSignedWide n).Ordered := by
  unfold ofSignedWide
  split
  · exact ordered_ofInt n
  · trivial

theorem ordered_ofUnsignedWide (n : Nat) : (ofUnsignedWide n).Ordered := by
  unfold ofUnsignedWide
  split
  · -- as it stands, the number would be compared with its bound step by step
    generalize (n : Int) = m
    exact ordered_ofInt m
  · trivial

mutual

/-- Data are decoded into an ordered value. -/
theorem ordered_ofToken? : ∀ (t : Token) {v : Value}, ofToken? t = some v → v.Ordered
  | .unit, _, rfl => trivial
  | .bool _, _, rfl => trivial
  | .word n, _, h => Option.some.inj h ▸ ordered_ofInt n
  | .signedWide n, _, h => Option.some.inj h ▸ ordered_ofSignedWide n
  | .unsignedWide n, _, h => Option.some.inj h ▸ ordered_ofUnsignedWide n
  | .float x, _, h => Option.some.inj h ▸ ordered_ofFloat x
  | .string _, _, rfl => trivial
  | .bytes _, _, rfl => trivial
  | .wrapped content, _, h => ordered_ofToken? content h
  | .tagged content, _, h => ordered_ofToken? content h
  | .list items, _, h => by
      obtain ⟨vs, hvs, rfl⟩ := Option.map_eq_some_iff.mp h
      exact itemsOrdered_ofTokens? items hvs
  | .map pairs, _, h => by
      obtain ⟨es, hes, rfl⟩ := Option.map_eq_some_iff.mp h
      exact ordered_ofTokenPairs? pairs List.Pairwise.nil trivial hes

theorem itemsOrdered_ofTokens? : ∀ (ts : List Token) {vs : List Value},
    ofTokens? ts = some vs → ItemsOrdered vs
  | [], _, rfl => trivial
  | t :: ts, _, h => by
      obtain ⟨v, hv, h⟩ := Option.bind_eq_some_iff.mp h
      obtain ⟨vs, hvs, h⟩ := Option.bind_eq_some_iff.mp h
      cases h
      exact ⟨ordered_ofToken? t hv, itemsOrdered_ofTokens? ts hvs⟩

theorem ordered_ofTokenPairs? : ∀ (ps : List (Token × Token)) {entries es : List (String × Value)},
    Entries.Sorted entries → EntriesOrdered entries → ofTokenPairs? entries ps = some es →
    (map es).Ordered
  | [], _, _, hsorted, hordered, rfl => ⟨hsorted, hordered⟩
  | (_, t) :: ps, _, _, hsorted, hordered, h => by
      obtain ⟨key, -, h⟩ := Option.bind_eq_some_iff.mp h
      obtain ⟨v, hv, h⟩ := Option.bind_eq_some_iff.mp h
      exact ordered_ofTokenPairs? ps (Entries.sorted_insert _ _ hsorted)
        (hordered.insert (ordered_ofToken? t hv)) h

end

end Lookout.Value
