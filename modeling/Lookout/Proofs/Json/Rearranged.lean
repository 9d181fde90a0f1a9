/-
The order of the entries of a map is not observed.

Two sequences of pairs may differ in their order, as long as pairs with one key come in the same
order in both.  Then each key has the same last value in both, and that is all that the entries
depend on.  Data may be rearranged in this way at any depth, and in the keys too, which are decoded
before they become text; so the proof goes through the data, and at a map it first moves the pairs
and then rearranges what is in them.

The text of a value is that of a document in which the names of each object increase, by code
point.  It is read as that document again, and so shown again as it was, if each float in it is
read back.  There are floats that are not: the reader rounds while it reads.
-/
import Lookout.Json.Printer
import Lookout.Proofs.Json.RoundTrip
import Lookout.Proofs.Json.Trees

namespace Lookout

/-! ### Sequences in another order -/

variable {α β κ ι : Type} [DecidableEq κ] [DecidableEq ι]

/-- Sequences with the same elements in another order, in which those with one key come in the
same order. -/
structure Reordered (key : α → κ) (xs ys : List α) : Prop where
  /-- The elements are the same. -/
  perm : xs.Perm ys
  /-- Those with one key are in the same order. -/
  order : ∀ k, (xs.filter fun x => key x = k) = ys.filter fun x => key x = k

namespace Reordered

variable {key : α → κ} {key' : β → ι} {xs ys : List α}

/-- An element may be moved past its neighbour if the neighbour has another key. -/
theorem swap {x y : α} (hne : key x ≠ key y) (zs : List α) :
    Reordered key (x :: y :: zs) (y :: x :: zs) := by
  refine ⟨.swap y x zs, fun k => ?_⟩
  by_cases hx : key x = k
  · have hy : key y ≠ k := fun hy => hne (hx.trans hy.symm)
    simp [hx, hy]
  · simp [List.filter_cons, hx]

/-- Elements that are mapped to others keep the order of those with one key, if no more of them
have one key than before. -/
theorem map {f : α → β} {g : ι → κ} (hkey : ∀ x, key x = g (key' (f x)))
    (h : Reordered key xs ys) : Reordered key' (xs.map f) (ys.map f) := by
  have hfilter : ∀ (zs : List α) (k : ι), ((zs.map f).filter fun y => key' y = k)
      = ((zs.filter fun x => key x = g k).filter fun x => key' (f x) = k).map f := by
    intro zs k
    rw [List.filter_map, List.filter_filter]
    refine congrArg (List.map f) (List.filter_congr fun x _ => ?_)
    by_cases hk : key' (f x) = k
    · simp [hk, hkey]
    · simp [hk]
  refine ⟨h.perm.map f, fun k => ?_⟩
  rw [hfilter, hfilter, h.order]

/-- Pairs that are made of elements have the same last values. -/
theorem last?_filterMap {f : α → Option (String × β)} {key : α → Option String}
    (hkey : ∀ x e, f x = some e → key x = some e.1) (h : Reordered key xs ys) (k : String) :
    Entries.last? k (xs.filterMap f) = Entries.last? k (ys.filterMap f) := by
  have hfilter : ∀ zs : List α, ((zs.filterMap f).filter fun e => e.1 = k)
      = (zs.filter fun x => key x = some k).filterMap f := by
    intro zs
    rw [List.filter_filterMap, List.filterMap_filter]
    refine List.filterMap_congr fun x _ => ?_
    cases hx : f x with
    | none => simp
    | some e => simp [hkey x e hx, Option.filter]
  unfold Entries.last?
  rw [hfilter, hfilter, h.order]

/-- Pairs in another order have the same last values. -/
theorem last?_eq {ps qs : List (String × β)} (h : Reordered (·.1) ps qs) (k : String) :
    Entries.last? k ps = Entries.last? k qs := by
  unfold Entries.last?
  rw [h.order]

end Reordered

/-! ### Data in another order -/

namespace Token

/-- The text that the key of a pair becomes. -/
def keyText? (pair : Token × Token) : Option String :=
  (Value.ofToken? pair.1).map Value.keyText

mutual

/-- Data that differ in the order of the entries of their maps, at any depth. -/
inductive Rearranged : Token → Token → Prop
  | refl (t : Token) : Rearranged t t
  | wrapped {t u : Token} : Rearranged t u → Rearranged (.wrapped t) (.wrapped u)
  | tagged {t u : Token} : Rearranged t u → Rearranged (.tagged t) (.tagged u)
  | list {ts us : List Token} : ItemsRearranged ts us → Rearranged (.list ts) (.list us)
  | map {ps moved qs : List (Token × Token)} : Reordered keyText? ps moved →
      PairsRearranged moved qs → Rearranged (.map ps) (.map qs)

/-- Items each of which is rearranged. -/
inductive ItemsRearranged : List Token → List Token → Prop
  | nil : ItemsRearranged [] []
  | cons {t u : Token} {ts us : List Token} : Rearranged t u → ItemsRearranged ts us →
      ItemsRearranged (t :: ts) (u :: us)

/-- Pairs in each of which the key and the value are rearranged. -/
inductive PairsRearranged : List (Token × Token) → List (Token × Token) → Prop
  | nil : PairsRearranged [] []
  | cons {k l t u : Token} {ps qs : List (Token × Token)} : Rearranged k l → Rearranged t u →
      PairsRearranged ps qs → PairsRearranged ((k, t) :: ps) ((l, u) :: qs)

end

end Token

namespace JsonDocument

mutual

/-- Documents that differ in the order of the members of their objects, at any depth. -/
inductive Rearranged : JsonDocument → JsonDocument → Prop
  | refl (d : JsonDocument) : Rearranged d d
  | array {ds es : List JsonDocument} : ItemsRearranged ds es → Rearranged (.array ds) (.array es)
  | object {ms moved ns : List (String × JsonDocument)} : Reordered (·.1) ms moved →
      MembersRearranged moved ns → Rearranged (.object ms) (.object ns)

/-- Items each of which is rearranged. -/
inductive ItemsRearranged : List JsonDocument → List JsonDocument → Prop
  | nil : ItemsRearranged [] []
  | cons {d e : JsonDocument} {ds es : List JsonDocument} : Rearranged d e →
      ItemsRearranged ds es → ItemsRearranged (d :: ds) (e :: es)

/-- Members each of which is rearranged under its name. -/
inductive MembersRearranged : List (String × JsonDocument) → List (String × JsonDocument) → Prop
  | nil : MembersRearranged [] []
  | cons {d e : JsonDocument} {ms ns : List (String × JsonDocument)} (name : String) :
      Rearranged d e → MembersRearranged ms ns →
      MembersRearranged ((name, d) :: ms) ((name, e) :: ns)

end

theorem toTokenPairs_eq_map : ∀ members : List (String × JsonDocument),
    toTokenPairs members = members.map fun m => (.string m.1, toToken m.2) := by
  intro members
  induction members with
  | nil => rfl
  | cons m members ih => exact congrArg (_ :: ·) ih

mutual

/-- The data of a document that is rearranged are rearranged. -/
theorem Rearranged.toToken : ∀ {d e : JsonDocument}, d.Rearranged e →
    d.toToken.Rearranged e.toToken
  | _, _, .refl d => .refl d.toToken
  | _, _, .array h => .list h.toTokens
  | _, _, @Rearranged.object ms moved _ hmoved h => by
      have hpairs : Reordered Token.keyText? (toTokenPairs ms) (toTokenPairs moved) := by
        rw [toTokenPairs_eq_map, toTokenPairs_eq_map]
        exact hmoved.map (g := (·.getD "")) fun _ => rfl
      exact .map hpairs h.toTokenPairs

theorem ItemsRearranged.toTokens : ∀ {ds es : List JsonDocument}, ItemsRearranged ds es →
    Token.ItemsRearranged (toTokens ds) (toTokens es)
  | _, _, .nil => .nil
  | _, _, .cons h hs => .cons h.toToken hs.toTokens

theorem MembersRearranged.toTokenPairs : ∀ {ms ns : List (String × JsonDocument)},
    MembersRearranged ms ns → Token.PairsRearranged (toTokenPairs ms) (toTokenPairs ns)
  | _, _, .nil => .nil
  | _, _, .cons name h hs => .cons (.refl (.string name)) h.toToken hs.toTokenPairs

end

end JsonDocument

namespace Value

/-! ### Decoding rearranged data -/

/-- The entry that a pair is decoded into. -/
def decoded? (pair : Token × Token) : Option (String × Value) := do
  let key ← ofToken? pair.1
  let value ← ofToken? pair.2
  pure (key.keyText, value)

/-- The key of an entry is the key text of its pair. -/
theorem keyText?_of_decoded? {pair : Token × Token} {e : String × Value}
    (h : decoded? pair = some e) : Token.keyText? pair = some e.1 := by
  obtain ⟨key, hkey, h⟩ := Option.bind_eq_some_iff.mp h
  obtain ⟨value, -, h⟩ := Option.bind_eq_some_iff.mp h
  cases h
  unfold Token.keyText?
  rw [hkey]
  rfl

/-- Pairs are decoded if each of them is, and then entered one after the other. -/
theorem ofTokenPairs?_eq : ∀ (pairs : List (Token × Token)) (entries : List (String × Value)),
    ofTokenPairs? entries pairs = if pairs.all fun p => (decoded? p).isSome then
      some (Entries.enter entries (pairs.filterMap decoded?)) else none := by
  intro pairs
  induction pairs with
  | nil => exact fun _ => rfl
  | cons p pairs ih =>
      intro entries
      obtain ⟨k, t⟩ := p
      have hdecoded : decoded? (k, t)
          = (ofToken? k).bind fun key => (ofToken? t).bind fun v => some (key.keyText, v) := rfl
      have hpairs : ofTokenPairs? entries ((k, t) :: pairs)
          = (decoded? (k, t)).bind fun e =>
            ofTokenPairs? (Entries.insert e.1 e.2 entries) pairs := by
        rw [hdecoded, ofTokenPairs?]
        cases ofToken? k with
        | none => rfl
        | some key =>
          cases ofToken? t with
          | none => rfl
          | some v => rfl
      rw [hpairs, List.all_cons]
      cases hp : decoded? (k, t) with
      | none => rfl
      | some e =>
          rw [List.filterMap_cons_some hp]
          exact ih _

/-- Moving pairs, but not past pairs with the same key text, changes nothing. -/
theorem ofTokenPairs?_of_reordered {pairs moved : List (Token × Token)}
    (h : Reordered Token.keyText? pairs moved) :
    ofTokenPairs? [] pairs = ofTokenPairs? [] moved := by
  have hall : (pairs.all fun p => (decoded? p).isSome) = moved.all fun p => (decoded? p).isSome :=
    h.perm.all_eq
  have henter : Entries.enter [] (pairs.filterMap decoded?)
      = Entries.enter [] (moved.filterMap decoded?) :=
    Entries.enter_eq_of_last? List.Pairwise.nil
      (h.last?_filterMap fun _ _ => keyText?_of_decoded?)
  rw [ofTokenPairs?_eq, ofTokenPairs?_eq, hall, henter]

end Value

namespace Token

open Value

mutual

/-- Rearranged data are decoded into the same value. -/
theorem Rearranged.ofToken?_eq : ∀ {t u : Token}, t.Rearranged u → ofToken? t = ofToken? u
  | _, _, .refl _ => rfl
  | _, _, .wrapped h => h.ofToken?_eq
  | _, _, .tagged h => h.ofToken?_eq
  | _, _, .list h => congrArg (Option.map Value.list) h.ofTokens?_eq
  | _, _, .map hmoved h =>
      congrArg (Option.map Value.map)
        ((ofTokenPairs?_of_reordered hmoved).trans (h.ofTokenPairs?_eq []))

theorem ItemsRearranged.ofTokens?_eq : ∀ {ts us : List Token}, ItemsRearranged ts us →
    ofTokens? ts = ofTokens? us
  | _, _, .nil => rfl
  | _, _, .cons h hs => by
      unfold ofTokens?
      rw [h.ofToken?_eq, hs.ofTokens?_eq]

theorem PairsRearranged.ofTokenPairs?_eq : ∀ {ps qs : List (Token × Token)},
    PairsRearranged ps qs → ∀ entries : List (String × Value),
    ofTokenPairs? entries ps = ofTokenPairs? entries qs
  | _, _, .nil, _ => rfl
  | _, _, .cons hk ht hs, entries => by
      unfold ofTokenPairs?
      rw [hk.ofToken?_eq, ht.ofToken?_eq]
      exact bind_congr fun key => bind_congr fun value => hs.ofTokenPairs?_eq _

end

end Token

namespace Value

/-- A value with a sequence of entries put in one after the other. -/
def insertAll (v : Value) (pairs : List (String × Value)) : Value :=
  pairs.foldl (fun v p => v.insert p.1 p.2) v

theorem insertAll_map : ∀ (pairs entries : List (String × Value)),
    (map entries).insertAll pairs = map (Entries.enter entries pairs) := by
  intro pairs
  induction pairs with
  | nil => exact fun _ => rfl
  | cons p pairs ih => exact fun entries => ih _

/-- Nothing is put into what is not a map. -/
theorem insertAll_eq_self {v : Value} (h : v.map? = none) :
    ∀ pairs : List (String × Value), v.insertAll pairs = v := by
  have hinsert : ∀ key value, v.insert key value = v := by
    intro key value
    cases v with
    | map entries => cases h
    | _ => rfl
  intro pairs
  induction pairs with
  | nil => rfl
  | cons p pairs ih =>
      show (v.insert p.1 p.2).insertAll pairs = v
      rw [hinsert, ih]

/-- Entries with other keys may be put in in any order. -/
theorem insertAll_of_reordered {v : Value} (hv : v.Ordered) {pairs moved : List (String × Value)}
    (h : Reordered (·.1) pairs moved) : v.insertAll pairs = v.insertAll moved := by
  cases v with
  | map entries =>
      rw [insertAll_map, insertAll_map]
      exact congrArg map (Entries.enter_eq_of_last? hv.1 h.last?_eq)
  | _ => rw [insertAll_eq_self rfl, insertAll_eq_self rfl]

end Value

/-! ### The order in the text -/

namespace JsonDocument

mutual

/-- In each object the names increase strictly from each member to the next. -/
def KeysIncrease : JsonDocument → Prop
  | array items => ItemsIncrease items
  | object members => Entries.Sorted members ∧ MembersIncrease members
  | _ => True

/-- In each object in one of the items the names increase. -/
def ItemsIncrease : List JsonDocument → Prop
  | [] => True
  | d :: ds => KeysIncrease d ∧ ItemsIncrease ds

/-- In each object in one of the members the names increase. -/
def MembersIncrease : List (String × JsonDocument) → Prop
  | [] => True
  | (_, d) :: members => KeysIncrease d ∧ MembersIncrease members

end

end JsonDocument

namespace Value

theorem toMembers_eq_mapValues : ∀ entries : List (String × Value),
    toMembers entries = Entries.mapValues toDocument entries := by
  intro entries
  induction entries with
  | nil => rfl
  | cons e entries ih => exact congrArg (_ :: ·) ih

mutual

/-- The text of a value is the text of its document. -/
theorem text_toDocument : ∀ v : Value, v.toDocument.text = v.jsonText
  | null => rfl
  | bool _ => rfl
  | number _ => rfl
  | string _ => rfl
  | list [] => rfl
  | list (item :: items) =>
      congrArg₂ (fun cs ds => '[' :: cs ++ ds) (text_toDocument item) (itemsText_toDocuments items)
  | map [] => rfl
  | map ((key, v) :: entries) =>
      congrArg₂ (fun cs ds => '{' :: Json.quote key ++ ':' :: cs ++ ds) (text_toDocument v)
        (membersText_toMembers entries)

theorem itemsText_toDocuments : ∀ items : List Value,
    JsonDocument.itemsText (toDocuments items) = jsonItems items
  | [] => rfl
  | item :: items =>
      congrArg₂ (fun cs ds => ',' :: cs ++ ds) (text_toDocument item) (itemsText_toDocuments items)

theorem membersText_toMembers : ∀ entries : List (String × Value),
    JsonDocument.membersText (toMembers entries) = jsonEntries entries
  | [] => rfl
  | (key, v) :: entries =>
      congrArg₂ (fun cs ds => ',' :: Json.quote key ++ ':' :: cs ++ ds) (text_toDocument v)
        (membersText_toMembers entries)

end

mutual

/-- A value whose maps are in order is shown with its keys increasing. -/
theorem keysIncrease_toDocument : ∀ v : Value, v.Ordered → v.toDocument.KeysIncrease
  | null, _ => trivial
  | bool _, _ => trivial
  | number _, _ => trivial
  | string _, _ => trivial
  | list items, h => itemsIncrease_toDocuments items h
  | map entries, h => by
      refine ⟨?_, membersIncrease_toMembers entries h.2⟩
      rw [toMembers_eq_mapValues]
      exact Entries.sorted_mapValues h.1

theorem itemsIncrease_toDocuments : ∀ items : List Value, ItemsOrdered items →
    JsonDocument.ItemsIncrease (toDocuments items)
  | [], _ => trivial
  | item :: items, h =>
      ⟨keysIncrease_toDocument item h.1, itemsIncrease_toDocuments items h.2⟩

theorem membersIncrease_toMembers : ∀ entries : List (String × Value), EntriesOrdered entries →
    JsonDocument.MembersIncrease (toMembers entries)
  | [], _ => trivial
  | (_, v) :: entries, h =>
      ⟨keysIncrease_toDocument v h.1, membersIncrease_toMembers entries h.2⟩

end

/-! ### The order is not observed -/

/-- **The order of the entries of a map is not observed.**  Data, texts and sequences of entries
that differ in it give the same value.  Its text holds the keys of each map in increasing order;
and where the floats in it are read back, it is read and shown again as the same text. -/
theorem order_unobserved :
    (∀ t u : Token, t.Rearranged u → ofToken? t = ofToken? u ∧ ∀ v ∈ ofToken? t, v.Ordered) ∧
    (∀ (text text' : String) (d d' : JsonDocument), Json.parse text = .ok d →
      Json.parse text' = .ok d' → d.Rearranged d' →
      ∃ v : Value, v.Ordered ∧ ofJsonData? text = some v ∧ ofJsonData? text' = some v) ∧
    (∀ (v : Value) (pairs moved : List (String × Value)), v.Ordered →
      Reordered (·.1) pairs moved → v.insertAll pairs = v.insertAll moved) ∧
    ∀ v : Value, v.Ordered →
      v.display = String.ofList v.toDocument.text ∧ v.toDocument.KeysIncrease ∧
      v.toDocument.toValue = v ∧
      (v.depth ≤ 127 → v.FloatsReadBack → Json.parse v.display = .ok v.toDocument ∧
        (ofJson? v.display).map display = some v.display) := by
  refine ⟨fun t u h => ⟨h.ofToken?_eq, fun v hv => ordered_ofToken? t hv⟩, ?_, ?_, ?_⟩
  · intro text text' d d' hd hd' h
    refine ⟨d.toValue, ordered_toValue d, ?_, ?_⟩
    · rw [ofJsonData?, hd]
      exact ofToken?_toToken d
    · rw [ofJsonData?, hd']
      exact h.toToken.ofToken?_eq.symm.trans (ofToken?_toToken d)
  · exact fun v pairs moved hv h => insertAll_of_reordered hv h
  · intro v hv
    refine ⟨?_, keysIncrease_toDocument v hv, toValue_toDocument v hv, fun hdepth hfloats => ?_⟩
    · rw [text_toDocument]
      rfl
    · have hparse := Json.parse_display hdepth hfloats
      refine ⟨hparse, ?_⟩
      rw [ofJson?, hparse]
      exact congrArg (fun w : Value => some w.display) (toValue_toDocument v hv)

/-- Members that come in another order, two of them with one name, and a map with a float. -/
theorem order_unobserved_repeated :
    let text := "\x7b\"b\":1,\"a\":\x7b\"y\":[],\"x\":null\x7d,\"b\":2\x7d"
    let text' := "\x7b\"a\":\x7b\"x\":null,\"y\":[]\x7d,\"b\":1,\"b\":2\x7d"
    let w : Value := map [("a", null), ("b", number (.float 0.5 (by decide)))]
    (∃ v : Value, ofJsonData? text = some v ∧ ofJsonData? text' = some v) ∧
      w.toDocument.KeysIncrease ∧ (ofJson? w.display).map display = some w.display := by
  intro text text' w
  obtain ⟨-, htexts, -, hshown⟩ := order_unobserved
  constructor
  · let one : JsonDocument := .number (.int 1 (by decide))
    let two : JsonDocument := .number (.int 2 (by decide))
    let inner : JsonDocument := .object [("y", .array []), ("x", .null)]
    let inner' : JsonDocument := .object [("x", .null), ("y", .array [])]
    have hparse : Json.parse text = .ok (.object [("b", one), ("a", inner), ("b", two)]) := by cbv
    have hparse' : Json.parse text' = .ok (.object [("a", inner'), ("b", one), ("b", two)]) := by
      cbv
    have hinner : inner.Rearranged inner' :=
      .object (.swap (by decide) []) (.cons _ (.refl _) (.cons _ (.refl _) .nil))
    have hmoved : Reordered (·.1) [("b", one), ("a", inner), ("b", two)]
        [("a", inner), ("b", one), ("b", two)] := .swap (by decide) _
    obtain ⟨v, -, hv, hv'⟩ := htexts text text' _ _ hparse hparse'
      (.object hmoved (.cons _ hinner (.cons _ (.refl _) (.cons _ (.refl _) .nil))))
    exact ⟨v, hv, hv'⟩
  · have hordered : w.Ordered := by
      simp only [w, Ordered, EntriesOrdered, Entries.Sorted, and_true]
      decide
    have hfloats : w.FloatsReadBack := ⟨trivial, fun _ _ _ => rfl, trivial⟩
    obtain ⟨-, hkeys, -, hback⟩ := hshown w hordered
    exact ⟨hkeys, (hback (by decide) hfloats).2⟩

/-- The reader rounds while it reads.  A number of many digits is shown with few, and these are
read as the number next to it, which is shown with many again. -/
theorem redisplay_astray :
    ∃ v : Value, ofJson? "300000000000000000000000" = some v ∧ v.Ordered ∧ v.depth ≤ 127 ∧
      v.display = "3e+23" ∧ (ofJson? v.display).map display = some "2.9999999999999997e+23" ∧
      (ofJson? v.display).map display ≠ some v.display := by
  have hshown : (ofJson? "300000000000000000000000").map (fun v => (v.display, v.depth))
      = some ("3e+23", 0) := by decide +kernel
  have hagain : (ofJson? "3e+23").map display = some "2.9999999999999997e+23" := by
    decide +kernel
  obtain ⟨v, hv, hboth⟩ := Option.map_eq_some_iff.mp hshown
  obtain ⟨hdisplay, hdepth⟩ := Prod.mk.inj hboth
  obtain ⟨d, -, hd⟩ := Option.map_eq_some_iff.mp hv
  refine ⟨v, hv, hd ▸ ordered_toValue d, hdepth ▸ Nat.zero_le 127, hdisplay, ?_, ?_⟩
  · rw [hdisplay, hagain]
  · rw [hdisplay, hagain]
    decide

end Value
end Lookout
