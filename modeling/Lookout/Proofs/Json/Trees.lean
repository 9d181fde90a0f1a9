/-
The ways from a JSON text to a value.

A text can be decoded directly, from the data that its reader hands over piece by piece, or into a
native tree that is converted afterwards.  Both read the same document, and in both the members of
an object are put in one after the other.  A native tree is converted by putting its members in once
more, but they are in order already, so that changes nothing but the values; and a value under a key
can be converted before it is put in as well as afterwards.  So the two ways agree, repeated names
and all, and conversion to a native tree and back gives what went in.
-/
import Mathlib
import Lookout.Json.Reader
import Lookout.Proofs.Value.Entered
import Lookout.Proofs.Value.Ordered
import Lookout.Value.Token

namespace Lookout

namespace JsonTree

mutual

/-- The entries of all objects are in the order of their names, each name once. -/
def Ordered : JsonTree → Prop
  | array items => ItemsOrdered items
  | object members => Entries.Sorted members ∧ MembersOrdered members
  | _ => True

/-- The items of an array are ordered trees. -/
def ItemsOrdered : List JsonTree → Prop
  | [] => True
  | j :: js => Ordered j ∧ ItemsOrdered js

/-- The members of an object hold ordered trees. -/
def MembersOrdered : List (String × JsonTree) → Prop
  | [] => True
  | (_, j) :: members => Ordered j ∧ MembersOrdered members

end

theorem MembersOrdered.insert {name : String} {j : JsonTree} (hj : j.Ordered) :
    ∀ {members : List (String × JsonTree)}, MembersOrdered members →
      MembersOrdered (Entries.insert name j members) := by
  intro members
  induction members with
  | nil => exact fun _ => ⟨hj, trivial⟩
  | cons m rest ih =>
      intro h
      unfold Entries.insert
      split
      · exact ⟨hj, h⟩
      · split
        · exact ⟨hj, h.2⟩
        · exact ⟨h.1, ih h.2⟩

mutual

/-- A document is decoded into an ordered tree. -/
theorem ordered_toTree : ∀ document : JsonDocument, document.toTree.Ordered
  | .null => trivial
  | .bool _ => trivial
  | .number _ => trivial
  | .string _ => trivial
  | .array items => itemsOrdered_toTrees items
  | .object members => ordered_toTreeEntries members List.Pairwise.nil trivial

theorem itemsOrdered_toTrees : ∀ items : List JsonDocument,
    ItemsOrdered (JsonDocument.toTrees items)
  | [] => trivial
  | item :: items => ⟨ordered_toTree item, itemsOrdered_toTrees items⟩

theorem ordered_toTreeEntries {entries : List (String × JsonTree)} :
    ∀ members : List (String × JsonDocument), Entries.Sorted entries → MembersOrdered entries →
      (object (JsonDocument.toTreeEntries entries members)).Ordered
  | [], hsorted, hordered => ⟨hsorted, hordered⟩
  | (name, member) :: members, hsorted, hordered =>
      ordered_toTreeEntries members (Entries.sorted_insert name member.toTree hsorted)
        (hordered.insert (ordered_toTree member))

end

/-- The tree that an object binds to a name. -/
def get? (name : String) : JsonTree → Option JsonTree
  | object members => Entries.find? name members
  | _ => none

/-- The native tree that a JSON text holds. -/
def ofJson? (text : String) : Option JsonTree :=
  (Json.parse text).toOption.map JsonDocument.toTree

end JsonTree

/-! ### Conversion -/

namespace JsonDocument

theorem toEntries_eq_enter : ∀ (members : List (String × JsonDocument))
    (entries : List (String × Value)),
    toEntries entries members = Entries.enter entries (Entries.mapValues toValue members) := by
  intro members
  induction members with
  | nil => exact fun _ => rfl
  | cons m members ih => exact fun entries => ih _

theorem toTreeEntries_eq_enter : ∀ (members : List (String × JsonDocument))
    (entries : List (String × JsonTree)),
    toTreeEntries entries members = Entries.enter entries (Entries.mapValues toTree members) := by
  intro members
  induction members with
  | nil => exact fun _ => rfl
  | cons m members ih => exact fun entries => ih _

end JsonDocument

namespace Value

theorem ofTreeEntries_eq_enter : ∀ (members : List (String × JsonTree))
    (entries : List (String × Value)),
    ofTreeEntries entries members = Entries.enter entries (Entries.mapValues ofTree members) := by
  intro members
  induction members with
  | nil => exact fun _ => rfl
  | cons m members ih => exact fun entries => ih _

theorem toTreeEntries_eq_enter : ∀ (entries : List (String × Value))
    (members : List (String × JsonTree)),
    toTreeEntries members entries = Entries.enter members (Entries.mapValues toTree entries) := by
  intro entries
  induction entries with
  | nil => exact fun _ => rfl
  | cons e entries ih => exact fun members => ih _

/-- Members in order are converted where they stand. -/
theorem ofTreeEntries_of_sorted {members : List (String × JsonTree)}
    (h : Entries.Sorted members) :
    ofTreeEntries [] members = Entries.mapValues ofTree members := by
  rw [ofTreeEntries_eq_enter]
  exact Entries.enter_of_sorted _ [] (Entries.sorted_mapValues h)

/-- Entries in order are converted where they stand. -/
theorem toTreeEntries_of_sorted {entries : List (String × Value)} (h : Entries.Sorted entries) :
    toTreeEntries [] entries = Entries.mapValues toTree entries := by
  rw [toTreeEntries_eq_enter]
  exact Entries.enter_of_sorted _ [] (Entries.sorted_mapValues h)

mutual

/-- A value whose maps are in order comes back from its native tree. -/
theorem ofTree_toTree : ∀ v : Value, v.Ordered → ofTree v.toTree = v
  | null, _ => rfl
  | bool _, _ => rfl
  | number _, _ => rfl
  | string _, _ => rfl
  | list items, h => congrArg list (ofTrees_toTrees items h)
  | map entries, h => by
      show map (ofTreeEntries [] (toTreeEntries [] entries)) = map entries
      rw [toTreeEntries_of_sorted h.1, ofTreeEntries_of_sorted (Entries.sorted_mapValues h.1),
        mapValues_ofTree_toTree entries h.2]

theorem ofTrees_toTrees : ∀ items : List Value, ItemsOrdered items →
    ofTrees (toTrees items) = items
  | [], _ => rfl
  | item :: items, h => congrArg₂ List.cons (ofTree_toTree item h.1) (ofTrees_toTrees items h.2)

theorem mapValues_ofTree_toTree : ∀ entries : List (String × Value), EntriesOrdered entries →
    Entries.mapValues ofTree (Entries.mapValues toTree entries) = entries
  | [], _ => rfl
  | (key, v) :: entries, h =>
      congrArg₂ List.cons (congrArg (key, ·) (ofTree_toTree v h.1))
        (mapValues_ofTree_toTree entries h.2)

end

mutual

/-- The native tree of an ordered value is ordered. -/
theorem Ordered.toTree : ∀ v : Value, v.Ordered → v.toTree.Ordered
  | null, _ => trivial
  | bool _, _ => trivial
  | number _, _ => trivial
  | string _, _ => trivial
  | list items, h => ItemsOrdered.toTrees items h
  | map entries, h => by
      show (JsonTree.object (toTreeEntries [] entries)).Ordered
      rw [toTreeEntries_of_sorted h.1]
      exact ⟨Entries.sorted_mapValues h.1, EntriesOrdered.toTree entries h.2⟩

theorem ItemsOrdered.toTrees : ∀ items : List Value, ItemsOrdered items →
    JsonTree.ItemsOrdered (toTrees items)
  | [], _ => trivial
  | item :: items, h => ⟨Ordered.toTree item h.1, ItemsOrdered.toTrees items h.2⟩

theorem EntriesOrdered.toTree : ∀ entries : List (String × Value), EntriesOrdered entries →
    JsonTree.MembersOrdered (Entries.mapValues Value.toTree entries)
  | [], _ => trivial
  | (_, v) :: entries, h => ⟨Ordered.toTree v h.1, EntriesOrdered.toTree entries h.2⟩

end

mutual

/-- A native tree whose objects are in order comes back from its value. -/
theorem toTree_ofTree : ∀ j : JsonTree, j.Ordered → (ofTree j).toTree = j
  | .null, _ => rfl
  | .bool _, _ => rfl
  | .number _, _ => rfl
  | .string _, _ => rfl
  | .array items, h => congrArg JsonTree.array (toTrees_ofTrees items h)
  | .object members, h => by
      show JsonTree.object (toTreeEntries [] (ofTreeEntries [] members)) = .object members
      rw [ofTreeEntries_of_sorted h.1, toTreeEntries_of_sorted (Entries.sorted_mapValues h.1),
        mapValues_toTree_ofTree members h.2]

theorem toTrees_ofTrees : ∀ items : List JsonTree, JsonTree.ItemsOrdered items →
    toTrees (ofTrees items) = items
  | [], _ => rfl
  | item :: items, h => congrArg₂ List.cons (toTree_ofTree item h.1) (toTrees_ofTrees items h.2)

theorem mapValues_toTree_ofTree : ∀ members : List (String × JsonTree),
    JsonTree.MembersOrdered members →
    Entries.mapValues toTree (Entries.mapValues ofTree members) = members
  | [], _ => rfl
  | (name, j) :: members, h =>
      congrArg₂ List.cons (congrArg (name, ·) (toTree_ofTree j h.1))
        (mapValues_toTree_ofTree members h.2)

end

mutual

/-- The value of an ordered native tree is ordered. -/
theorem ordered_ofTree : ∀ j : JsonTree, j.Ordered → (ofTree j).Ordered
  | .null, _ => trivial
  | .bool _, _ => trivial
  | .number _, _ => trivial
  | .string _, _ => trivial
  | .array items, h => itemsOrdered_ofTrees items h
  | .object members, h => by
      show (map (ofTreeEntries [] members)).Ordered
      rw [ofTreeEntries_of_sorted h.1]
      exact ⟨Entries.sorted_mapValues h.1, entriesOrdered_ofTree members h.2⟩

theorem itemsOrdered_ofTrees : ∀ items : List JsonTree, JsonTree.ItemsOrdered items →
    ItemsOrdered (ofTrees items)
  | [], _ => trivial
  | item :: items, h => ⟨ordered_ofTree item h.1, itemsOrdered_ofTrees items h.2⟩

theorem entriesOrdered_ofTree : ∀ members : List (String × JsonTree),
    JsonTree.MembersOrdered members → EntriesOrdered (Entries.mapValues ofTree members)
  | [], _ => trivial
  | (_, j) :: members, h => ⟨ordered_ofTree j h.1, entriesOrdered_ofTree members h.2⟩

end

mutual

/-- A native tree that was decoded is converted to what is decoded directly. -/
theorem ofTree_toTree_document : ∀ document : JsonDocument,
    ofTree document.toTree = document.toValue
  | .null => rfl
  | .bool _ => rfl
  | .number _ => rfl
  | .string _ => rfl
  | .array items => congrArg list (ofTrees_toTrees_documents items)
  | .object members => by
      have hsorted : Entries.Sorted (JsonDocument.toTreeEntries [] members) := by
        rw [JsonDocument.toTreeEntries_eq_enter]
        exact Entries.sorted_enter _ List.Pairwise.nil
      show map (ofTreeEntries [] (JsonDocument.toTreeEntries [] members))
        = map (JsonDocument.toEntries [] members)
      -- the members in order are converted where they stand, or just as well before they got there
      rw [ofTreeEntries_of_sorted hsorted, JsonDocument.toTreeEntries_eq_enter,
        Entries.mapValues_enter, JsonDocument.toEntries_eq_enter, mapValues_ofTree_document members]
      rfl

theorem ofTrees_toTrees_documents : ∀ items : List JsonDocument,
    ofTrees (JsonDocument.toTrees items) = JsonDocument.toValues items
  | [] => rfl
  | item :: items =>
      congrArg₂ List.cons (ofTree_toTree_document item) (ofTrees_toTrees_documents items)

theorem mapValues_ofTree_document : ∀ members : List (String × JsonDocument),
    Entries.mapValues ofTree (Entries.mapValues JsonDocument.toTree members)
      = Entries.mapValues JsonDocument.toValue members
  | [] => rfl
  | (name, member) :: members =>
      congrArg₂ List.cons (congrArg (name, ·) (ofTree_toTree_document member))
        (mapValues_ofTree_document members)

end

end Value

/-! ### Data handed over -/

namespace JsonDocument

mutual

/-- The data that the reader of a document hands over: its integers are words, and the names of its
members are strings like others. -/
def toToken : JsonDocument → Token
  | null => .unit
  | bool b => .bool b
  | number (.int n _) => .word n
  | number (.float x _) => .float x
  | string s => .string s
  | array items => .list (toTokens items)
  | object members => .map (toTokenPairs members)

/-- The items of an array, in order. -/
def toTokens : List JsonDocument → List Token
  | [] => []
  | item :: items => toToken item :: toTokens items

/-- The members of an object, in the order of the text. -/
def toTokenPairs : List (String × JsonDocument) → List (Token × Token)
  | [] => []
  | (name, member) :: members => (.string name, toToken member) :: toTokenPairs members

end

end JsonDocument

namespace Value

theorem ofInt_of_fits {n : Int} (h : FitsWord n) : ofInt n = number (.int n h) := by
  unfold ofInt Number.ofInt?
  rw [dif_pos h]

theorem ofFloat_of_finite {x : Float} (h : x.isFinite = true) :
    ofFloat x = number (.float x h) := by
  unfold ofFloat Number.ofFloat?
  rw [dif_pos h]

mutual

/-- The data of a document are decoded, and into its value: a name is its own text. -/
theorem ofToken?_toToken : ∀ document : JsonDocument,
    ofToken? document.toToken = some document.toValue
  | .null => rfl
  | .bool _ => rfl
  | .number (.int _ h) => congrArg some (ofInt_of_fits h)
  | .number (.float _ h) => congrArg some (ofFloat_of_finite h)
  | .string _ => rfl
  | .array items => congrArg (Option.map list) (ofTokens?_toTokens items)
  | .object members => congrArg (Option.map map) (ofTokenPairs?_toTokenPairs members [])

theorem ofTokens?_toTokens : ∀ items : List JsonDocument,
    ofTokens? (JsonDocument.toTokens items) = some (JsonDocument.toValues items)
  | [] => rfl
  | item :: items => by
      unfold JsonDocument.toTokens ofTokens?
      rw [ofToken?_toToken item, ofTokens?_toTokens items]
      rfl

theorem ofTokenPairs?_toTokenPairs : ∀ (members : List (String × JsonDocument))
    (entries : List (String × Value)),
    ofTokenPairs? entries (JsonDocument.toTokenPairs members)
      = some (JsonDocument.toEntries entries members)
  | [], _ => rfl
  | (name, member) :: members, entries => by
      have hname : ofToken? (.string name) = some (string name) := rfl
      unfold JsonDocument.toTokenPairs ofTokenPairs?
      rw [hname, ofToken?_toToken member]
      exact ofTokenPairs?_toTokenPairs members _

end

/-- The value that a JSON text holds, decoded from the data that its reader hands over. -/
def ofJsonData? (text : String) : Option Value :=
  (Json.parse text).toOption.bind fun document => ofToken? document.toToken

/-- What is decoded from the data is what is decoded from the document. -/
theorem ofJsonData?_eq (text : String) : ofJsonData? text = ofJson? text := by
  unfold ofJsonData? ofJson?
  cases (Json.parse text).toOption with
  | none => rfl
  | some document => exact ofToken?_toToken document

/-! ### Agreement -/

/-- **The ways to a value agree.**  Conversion to a native tree and back changes nothing, in either
direction.  A text is decoded directly if and only if it is decoded into a native tree, and then
into the value of that tree; and in both, of members with one name the last one counts. -/
theorem tree_agrees :
    (∀ v : Value, v.Ordered → v.toTree.Ordered ∧ ofTree v.toTree = v) ∧
    (∀ j : JsonTree, j.Ordered → (ofTree j).Ordered ∧ (ofTree j).toTree = j) ∧
    (∀ text : String, ofJsonData? text = (JsonTree.ofJson? text).map ofTree ∧
      ofJsonData? text = ofJson? text ∧ ∀ j ∈ JsonTree.ofJson? text, j.Ordered) ∧
    ∀ (members : List (String × JsonDocument)) (name : String),
      (JsonDocument.object members).toValue.get? name
        = (Entries.last? name members).map JsonDocument.toValue ∧
      (JsonDocument.object members).toTree.get? name
        = (Entries.last? name members).map JsonDocument.toTree := by
  refine ⟨fun v h => ⟨h.toTree, ofTree_toTree v h⟩,
    fun j h => ⟨ordered_ofTree j h, toTree_ofTree j h⟩,
    fun text => ⟨?_, ?_, fun j hj => ?_⟩, fun members name => ⟨?_, ?_⟩⟩
  · rw [ofJsonData?_eq]
    unfold ofJson? JsonTree.ofJson?
    rw [Option.map_map]
    exact congrArg (Option.map · _) (funext fun d => (ofTree_toTree_document d).symm)
  · exact ofJsonData?_eq text
  · obtain ⟨document, -, rfl⟩ := Option.map_eq_some_iff.mp hj
    exact JsonTree.ordered_toTree document
  · show Entries.find? name (JsonDocument.toEntries [] members) = _
    rw [JsonDocument.toEntries_eq_enter, Entries.find?_enter, Entries.last?_mapValues]
    exact Option.or_none
  · show Entries.find? name (JsonDocument.toTreeEntries [] members) = _
    rw [JsonDocument.toTreeEntries_eq_enter, Entries.find?_enter, Entries.last?_mapValues]
    exact Option.or_none

/-- Names that come twice, in an object that comes twice. -/
theorem tree_agrees_repeated :
    let v : Value := map [("a", map [("b", list []), ("c", bool true)])]
    let j : JsonTree := .object [("a", .object [("b", .array []), ("c", .bool true)])]
    let text := "\x7b\"a\":null,\"a\":\x7b\"b\":null,\"c\":true,\"b\":[]\x7d\x7d"
    ofTree v.toTree = v ∧ (ofTree j).toTree = j ∧ ofJsonData? text = some v := by
  intro v j text
  have hv : v.Ordered := by
    simp only [v, Ordered, EntriesOrdered, ItemsOrdered, Entries.Sorted, and_true]
    decide
  have hj : j.Ordered := by
    simp only [j, JsonTree.Ordered, JsonTree.MembersOrdered, JsonTree.ItemsOrdered,
      Entries.Sorted, and_true]
    decide
  have htree : JsonTree.ofJson? text = some j := by cbv
  obtain ⟨hback, hforth, htexts, -⟩ := tree_agrees
  refine ⟨(hback v hv).2, (hforth j hj).2, ?_⟩
  rw [(htexts text).1, htree]
  rfl

end Value
end Lookout
