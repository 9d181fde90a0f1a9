/-
A document has one value, whichever way it is decoded.

There are two ways.  The direct one makes a token of the data and the value of the token.  The
other one makes a tree, which tells tags and kinds of keys apart, and then drops both.  A tree is
harder to get: it has no place for integers beyond 64 bits and for a key that comes twice.  So
the two ways are compared for the documents that have a tree.

Each way goes through the data on its own, and what has to agree are not just the values.  Keys
are data themselves, of any kind and under any tags, and become text; keys that differ can become
the same text, and then the later entry takes the place of the earlier one.  So the entries are
compared as they are entered, on top of any entries that were there before.
-/
import Lookout.Proofs.Except
import Lookout.Proofs.Value.Entries
import Lookout.Yaml.Tree

namespace Lookout.Yaml

/-! ### Trees without tags -/

namespace Tree

mutual

/-- A tree with no tag left at any depth, in keys as little as elsewhere. -/
def untagged : Tree → Tree
  | sequence items => sequence (untaggedItems items)
  | mapping pairs => mapping (untaggedPairs pairs)
  | tagged _ content => untagged content
  | t => t

/-- Items with no tag left. -/
def untaggedItems : List Tree → List Tree
  | [] => []
  | t :: ts => untagged t :: untaggedItems ts

/-- Pairs with no tag left. -/
def untaggedPairs : List (Tree × Tree) → List (Tree × Tree)
  | [] => []
  | (k, v) :: pairs => (untagged k, untagged v) :: untaggedPairs pairs

end

mutual

/-- Tags say nothing of the value. -/
theorem toValue_untagged : ∀ t : Tree, t.untagged.toValue = t.toValue
  | null => rfl
  | bool _ => rfl
  | int _ => rfl
  | float _ => rfl
  | string _ => rfl
  | sequence items => congrArg Value.list (itemValues_untagged items)
  | mapping pairs => congrArg Value.map (entriesOf_untagged pairs [])
  | tagged _ content => toValue_untagged content

theorem itemValues_untagged : ∀ ts : List Tree, itemValues (untaggedItems ts) = itemValues ts
  | [] => rfl
  | t :: ts => by
      unfold untaggedItems itemValues
      rw [toValue_untagged t, itemValues_untagged ts]

theorem entriesOf_untagged : ∀ (pairs : List (Tree × Tree)) (entries : List (String × Value)),
    entriesOf entries (untaggedPairs pairs) = entriesOf entries pairs
  | [], _ => rfl
  | (k, v) :: pairs, entries => by
      unfold untaggedPairs entriesOf
      rw [toValue_untagged k, toValue_untagged v, entriesOf_untagged pairs]

end

/-! ### Keys that become the same text -/

/-- The last of some pairs whose key has a text. -/
def lastWithKey? (key : String) (pairs : List (Tree × Tree)) : Option (Tree × Tree) :=
  pairs.reverse.find? fun p => p.1.toValue.keyText = key

/-- What the pairs bind to a text counts before what was there before them. -/
theorem find?_entriesOf (key : String) :
    ∀ (pairs : List (Tree × Tree)) (entries : List (String × Value)),
      Entries.find? key (entriesOf entries pairs)
        = ((lastWithKey? key pairs).map (·.2.toValue)).or (Entries.find? key entries) := by
  intro pairs
  induction pairs with
  | nil => exact fun _ => rfl
  | cons p pairs ih =>
      intro entries
      obtain ⟨k, v⟩ := p
      unfold entriesOf
      rw [ih, Entries.find?_insert]
      unfold lastWithKey?
      rw [List.reverse_cons, List.find?_append]
      cases pairs.reverse.find? fun p => p.1.toValue.keyText = key with
      | some last => rfl
      | none =>
          by_cases hk : k.toValue.keyText = key
          · simp [hk]
          · simp [hk]

/-- Of entries whose keys have the same text the last one counts. -/
theorem get?_toValue_mapping (key : String) (pairs : List (Tree × Tree)) :
    (mapping pairs).toValue.get? key = (lastWithKey? key pairs).map (·.2.toValue) := by
  have h := find?_entriesOf key pairs []
  rw [show Entries.find? key ([] : List (String × Value)) = none from rfl, Option.or_none] at h
  exact h

end Tree

/-! ### The two ways, part by part -/

/-- A scalar that has a tree has the value of that tree. -/
theorem Scalar.ofToken?_toToken {s : Scalar} {t : Tree} (h : s.toTree = .ok t) :
    Value.ofToken? s.toToken = some t.toValue := by
  cases s with
  | null => cases h; rfl
  | bool b => cases h; rfl
  | unsigned n => cases h; rfl
  | signed n => cases h; rfl
  | unsignedWide n => cases h
  | signedWide n => cases h
  | float x => cases h; rfl
  | text s => cases h; rfl

namespace Data

theorem ofToken?_underTag (tag : Option String) (k : Token) :
    Value.ofToken? (underTag tag k) = Value.ofToken? k := by
  unfold underTag
  split
  · rfl
  · rfl

theorem toValue_treeUnderTag (tag : Option String) (t : Tree) :
    (treeUnderTag tag t).toValue = t.toValue := by
  unfold treeUnderTag
  split
  · rfl
  · rfl

mutual

/-- Data that has a tree has a token, and that token has the value of the tree. -/
theorem toToken_of_toTree : ∀ (d : Data) {t : Tree}, d.toTree = .ok t →
    ∃ k, d.toToken = .ok k ∧ Value.ofToken? k = some t.toValue
  | scalar tag plain text, t, h => by
      unfold toTree at h
      obtain ⟨s, hs, h⟩ := bind_eq_ok h
      obtain ⟨u, hu, h⟩ := bind_eq_ok h
      cases h
      refine ⟨underTag tag s.toToken, ?_, ?_⟩
      · unfold toToken
        rw [hs]
        rfl
      · rw [ofToken?_underTag, toValue_treeUnderTag, Scalar.ofToken?_toToken hu]
  | sequence tag items, t, h => by
      unfold toTree at h
      obtain ⟨ts, hts, h⟩ := bind_eq_ok h
      cases h
      obtain ⟨ks, hks, hvalues⟩ := itemTokens_of_itemTrees items hts
      refine ⟨underTag tag (.list ks), ?_, ?_⟩
      · unfold toToken
        rw [hks]
        rfl
      · rw [ofToken?_underTag, toValue_treeUnderTag]
        unfold Value.ofToken?
        rw [hvalues]
        rfl
  | mapping tag pairs, t, h => by
      unfold toTree at h
      obtain ⟨ps, hps, h⟩ := bind_eq_ok h
      cases h
      obtain ⟨ks, hks, hentries⟩ := pairTokens_of_pairTrees pairs hps
      refine ⟨underTag tag (.map ks), ?_, ?_⟩
      · unfold toToken
        rw [hks]
        rfl
      · rw [ofToken?_underTag, toValue_treeUnderTag]
        unfold Value.ofToken?
        rw [hentries]
        rfl
  | excess limit, t, h => by
      unfold toTree at h
      cases h

theorem itemTokens_of_itemTrees : ∀ (ds : List Data) {index : Nat} {ts : List Tree},
    itemTrees index ds = .ok ts →
      ∃ ks, itemTokens index ds = .ok ks ∧ Value.ofTokens? ks = some (Tree.itemValues ts)
  | [], _, ts, h => by
      cases h
      exact ⟨[], rfl, rfl⟩
  | d :: ds, index, ts, h => by
      unfold itemTrees at h
      obtain ⟨t, ht, h⟩ := bind_eq_ok h
      obtain ⟨rest, hrest, h⟩ := bind_eq_ok h
      cases h
      obtain ⟨k, hk, hvalue⟩ := toToken_of_toTree d (mapError_eq_ok.mp ht)
      obtain ⟨ks, hks, hvalues⟩ := itemTokens_of_itemTrees ds hrest
      refine ⟨k :: ks, ?_, ?_⟩
      · unfold itemTokens
        rw [hk, hks]
        rfl
      · unfold Value.ofTokens? Tree.itemValues
        rw [hvalue, hvalues]
        rfl

/-- The entries agree as they are entered, whatever was entered before. -/
theorem pairTokens_of_pairTrees : ∀ (pairs : List (Option String × Data × Data))
    {before : List Tree} {ps : List (Tree × Tree)}, pairTrees before pairs = .ok ps →
      ∃ ks, pairTokens pairs = .ok ks ∧
        ∀ entries, Value.ofTokenPairs? entries ks = some (Tree.entriesOf entries ps)
  | [], _, ps, h => by
      cases h
      exact ⟨[], rfl, fun _ => rfl⟩
  | (label, key, value) :: pairs, before, ps, h => by
      unfold pairTrees at h
      obtain ⟨t, ht, h⟩ := bind_eq_ok h
      split at h
      · cases h
      · obtain ⟨u, hu, h⟩ := bind_eq_ok h
        obtain ⟨rest, hrest, h⟩ := bind_eq_ok h
        cases h
        obtain ⟨k, hk, hkey⟩ := toToken_of_toTree key ht
        obtain ⟨l, hl, hvalue⟩ := toToken_of_toTree value (mapError_eq_ok.mp hu)
        obtain ⟨ks, hks, hentries⟩ := pairTokens_of_pairTrees pairs hrest
        refine ⟨(k, l) :: ks, ?_, fun entries => ?_⟩
        · unfold pairTokens
          rw [hk, hl, hks]
          rfl
        · unfold Value.ofTokenPairs? Tree.entriesOf
          rw [hkey, hvalue]
          exact hentries _

end

/-- Data that has a tree has the value of that tree. -/
theorem toValue_of_toTree {d : Data} {t : Tree} (h : d.toTree = .ok t) :
    d.toValue = .ok t.toValue := by
  obtain ⟨k, hk, hvalue⟩ := toToken_of_toTree d h
  unfold toValue
  rw [hk]
  show Except.ok ((Value.ofToken? k).getD .null) = _
  rw [hvalue]
  rfl

end Data

/-! ### Whole documents -/

/-- **A document that has a tree has the value of that tree when it is decoded directly.**  Tags
at any depth, on keys as on other data, make no difference to it, and where the keys of several
entries become the same text the value has the last of these entries. -/
theorem ofYaml_eq_toValue_tree {text : String} {t : Tree} (h : Tree.ofText text = .ok t) :
    Value.ofYaml text = .ok t.toValue ∧ t.toValue = t.untagged.toValue ∧
      ∀ (pairs : List (Tree × Tree)) (key : String), (Tree.mapping pairs).toValue.get? key
        = (Tree.lastWithKey? key pairs).map (·.2.toValue) := by
  refine ⟨?_, t.toValue_untagged.symm, fun pairs key => Tree.get?_toValue_mapping key pairs⟩
  unfold Tree.ofText readText at h
  split at h
  · case _ d hd =>
    unfold Value.ofYaml readText
    rw [hd]
    exact Data.toValue_of_toTree h
  · cases h

/-- A list under a tag, a text and a tagged number that become keys of the same text, with
floats that are no numbers. -/
def collision : String :=
  "!w \x7b'[1,null]': first, ? !k [1, !t ~] : .nan, ? !n 0x10 : -.inf, "
    ++ "'16': \x7ba: !b 2.5, !c a: 7\x7d\x7d"

theorem ofYaml_collision : ∃ t, Tree.ofText collision = .ok t ∧
    Value.ofYaml collision = .ok t.toValue ∧
    t.toValue.display = "\x7b\"16\":\x7b\"a\":7\x7d,\"[1,null]\":\"NaN\"\x7d" := by
  have hshown : (Tree.ofText collision).toOption.map (·.toValue.display)
      = some "\x7b\"16\":\x7b\"a\":7\x7d,\"[1,null]\":\"NaN\"\x7d" := by decide +kernel
  obtain ⟨t, ht, hdisplay⟩ := eq_ok_of_toOption_map hshown
  exact ⟨t, ht, (ofYaml_eq_toValue_tree ht).1, hdisplay⟩

end Lookout.Yaml
