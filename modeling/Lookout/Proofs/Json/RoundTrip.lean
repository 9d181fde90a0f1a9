/-
A value that was shown is read back as it was.

The text of a value and the reader are run against each other: whatever comes behind the text, the
reader stops where the text ends, with the document that the value stands for.  That is shown by
induction on the value, with the depth that the reader still allows and the fuel it still has as
the two bounds on what it can read.  The fuel is at least the length of the text, which is why it
never runs out, and the depth is what limits the nesting to 127.

Decoding that document puts the entries of each map back one after the other.  They come in the
order of the map, so each is entered behind those before it.
-/
import Lookout.Proofs.Json.Numerals
import Lookout.Proofs.Json.Quoted
import Lookout.Proofs.Value.Entries
import Lookout.Proofs.Value.Ordered

namespace Lookout

namespace Value

mutual

/-- How deep lists and maps are nested in a value. -/
def depth : Value → Nat
  | list items => depthItems items + 1
  | map entries => depthEntries entries + 1
  | _ => 0

/-- How deep lists and maps are nested in the items of a list. -/
def depthItems : List Value → Nat
  | [] => 0
  | item :: items => max (depth item) (depthItems items)

/-- How deep lists and maps are nested in the entries of a map. -/
def depthEntries : List (String × Value) → Nat
  | [] => 0
  | (_, value) :: entries => max (depth value) (depthEntries entries)

end

mutual

/-- Each float in a value is read back from its text. -/
def FloatsReadBack : Value → Prop
  | number n => ∀ x hx, n = .float x hx → n.ReadsBack
  | list items => ItemsReadBack items
  | map entries => EntriesReadBack entries
  | _ => True

/-- Each float in the items of a list is read back from its text. -/
def ItemsReadBack : List Value → Prop
  | [] => True
  | item :: items => FloatsReadBack item ∧ ItemsReadBack items

/-- Each float in the entries of a map is read back from its text. -/
def EntriesReadBack : List (String × Value) → Prop
  | [] => True
  | (_, value) :: entries => FloatsReadBack value ∧ EntriesReadBack entries

end

mutual

/-- The document that the text of a value is. -/
def toDocument : Value → JsonDocument
  | null => .null
  | bool b => .bool b
  | number n => .number n
  | string s => .string s
  | list items => .array (toDocuments items)
  | map entries => .object (toMembers entries)

/-- The documents of the items of a list, in order. -/
def toDocuments : List Value → List JsonDocument
  | [] => []
  | item :: items => toDocument item :: toDocuments items

/-- The members that stand for the entries of a map, in order. -/
def toMembers : List (String × Value) → List (String × JsonDocument)
  | [] => []
  | (key, value) :: entries => (key, toDocument value) :: toMembers entries

end

end Value

namespace Json

/-! ### Single steps of the reader -/

/-- Text that starts with a token, and not with the end of a list. -/
def Opening (cs : List Char) : Prop :=
  ∃ d ds, cs = d :: ds ∧ isSpace d = false ∧ d ≠ ']'

theorem Opening.append {cs : List Char} (h : Opening cs) (rest : List Char) :
    Opening (cs ++ rest) := by
  obtain ⟨d, ds, rfl, hd⟩ := h
  exact ⟨d, ds ++ rest, rfl, hd⟩

theorem Numeral.opening {body : List Char} (h : Numeral body) (negative : Bool) :
    Opening (signText negative ++ body) := by
  obtain ⟨d, ds, rfl, hd⟩ := h.digit
  cases negative with
  | true => exact ⟨'-', d :: ds, rfl, rfl, by decide⟩
  | false =>
      refine ⟨d, ds, rfl, not_isSpace_of_isDigit hd, fun hbracket => ?_⟩
      rw [hbracket] at hd
      cases hd

/-- The text of a value starts with a token. -/
theorem opening_jsonText (v : Value) : Opening v.jsonText := by
  cases v with
  | null => exact ⟨'n', _, rfl, rfl, by decide⟩
  | bool b =>
      cases b with
      | true => exact ⟨'t', _, rfl, rfl, by decide⟩
      | false => exact ⟨'f', _, rfl, rfl, by decide⟩
  | number n =>
      obtain ⟨negative, body, htext, hbody⟩ := exists_numeral n
      show Opening n.text
      rw [htext]
      exact hbody.opening negative
  | string s => exact ⟨'"', _, rfl, rfl, by decide⟩
  | list items => cases items <;> exact ⟨'[', _, rfl, rfl, by decide⟩
  | map entries =>
      cases entries with
      | nil => exact ⟨'{', _, rfl, rfl, by decide⟩
      | cons e entries => exact ⟨'{', _, rfl, rfl, by decide⟩

variable {fuel depth : Nat} {cs behind rest : List Char}

/-- What separates an item or a member from the one in front of it. -/
def separator (first : Bool) : List Char :=
  if first then [] else [',']

theorem readItems_close (first : Bool) :
    readItems (fuel + 1) depth first (']' :: rest) = .ok ([], rest) := by
  rw [readItems, skipSpace_cons rfl]
  rfl

/-- One item of an array, then those behind it. -/
theorem readItems_cons (first : Bool) {item : JsonDocument} {items : List JsonDocument}
    (hopening : Opening cs) (hitem : readValue fuel depth cs = .ok (item, behind))
    (hitems : readItems fuel depth false behind = .ok (items, rest)) :
    readItems (fuel + 1) depth first (separator first ++ cs) = .ok (item :: items, rest) := by
  obtain ⟨d, ds, rfl, hspace, hbracket⟩ := hopening
  cases first with
  | true =>
      show readItems (fuel + 1) depth true (d :: ds) = _
      rw [readItems, skipSpace_cons hspace]
      dsimp only
      rw [if_neg hbracket, if_pos rfl]
      exact (bind_of_eq_ok hitem _).trans (bind_of_eq_ok hitems _)
  | false =>
      show readItems (fuel + 1) depth false (',' :: d :: ds) = _
      rw [readItems, skipSpace_cons rfl]
      dsimp only
      rw [if_neg (by decide), if_neg Bool.false_ne_true, if_pos rfl, skipSpace_cons hspace]
      dsimp only
      rw [if_neg hbracket]
      exact (bind_of_eq_ok hitem _).trans (bind_of_eq_ok hitems _)

theorem readMembers_close (first : Bool) :
    readMembers (fuel + 1) depth first ('}' :: rest) = .ok ([], rest) := by
  rw [readMembers, skipSpace_cons rfl]
  rfl

/-- One member of an object, then those behind it. -/
theorem readMembers_cons (first : Bool) (name : String) {member : JsonDocument}
    {members : List (String × JsonDocument)}
    (hmember : readValue fuel depth cs = .ok (member, behind))
    (hmembers : readMembers fuel depth false behind = .ok (members, rest)) :
    readMembers (fuel + 1) depth first (separator first ++ (quote name ++ ':' :: cs))
      = .ok ((name, member) :: members, rest) := by
  have hname := readQuoted_quote name (':' :: cs)
  rw [quote_append]
  cases first with
  | true =>
      show readMembers (fuel + 1) depth true ('"' :: _) = _
      rw [readMembers, skipSpace_cons rfl]
      dsimp only
      rw [if_neg (by decide), if_pos rfl, if_pos rfl]
      refine (bind_of_eq_ok hname _).trans ?_
      exact (bind_of_eq_ok hmember _).trans (bind_of_eq_ok hmembers _)
  | false =>
      show readMembers (fuel + 1) depth false (',' :: '"' :: _) = _
      rw [readMembers, skipSpace_cons rfl]
      dsimp only
      rw [if_neg (by decide), if_neg Bool.false_ne_true, if_pos rfl, skipSpace_cons rfl]
      dsimp only
      rw [if_pos rfl]
      refine (bind_of_eq_ok hname _).trans ?_
      exact (bind_of_eq_ok hmember _).trans (bind_of_eq_ok hmembers _)

/-- A list that may be opened is an array of its items. -/
theorem readValue_array {items : List JsonDocument}
    (hitems : readItems fuel (depth + 1) true cs = .ok (items, rest)) :
    readValue (fuel + 1) (depth + 2) ('[' :: cs) = .ok (.array items, rest) := by
  rw [readValue, skipSpace_cons rfl]
  dsimp only
  rw [if_neg (by decide), if_neg (by decide), if_neg (by decide), if_neg (by decide), if_pos rfl,
    if_neg (by omega)]
  exact bind_of_eq_ok hitems _

/-- A map that may be opened is an object of its members. -/
theorem readValue_object {members : List (String × JsonDocument)}
    (hmembers : readMembers fuel (depth + 1) true cs = .ok (members, rest)) :
    readValue (fuel + 1) (depth + 2) ('{' :: cs) = .ok (.object members, rest) := by
  rw [readValue, skipSpace_cons rfl]
  dsimp only
  rw [if_neg (by decide), if_neg (by decide), if_neg (by decide), if_neg (by decide),
    if_neg (by decide), if_pos rfl, if_neg (by omega)]
  exact bind_of_eq_ok hmembers _

theorem readValue_quote (s : String) (rest : List Char) :
    readValue (fuel + 1) depth (quote s ++ rest) = .ok (.string s, rest) := by
  rw [quote_append, readValue, skipSpace_cons rfl]
  dsimp only
  rw [if_neg (by decide), if_neg (by decide), if_neg (by decide), if_pos rfl, readQuoted_quote]
  rfl

/-- A number that is read back on its own is read back in front of what belongs to no number. -/
theorem readValue_number {n : Number} (hn : ∀ x hx, n = .float x hx → n.ReadsBack)
    (hrest : Detached rest) :
    readValue (fuel + 1) depth (n.text ++ rest) = .ok (.number n, rest) := by
  obtain ⟨negative, body, htext, hbody, hread⟩ := exists_readNumber hn
  rw [htext, readValue_numeral fuel depth negative hbody, readNumber_append hrest hread]
  rfl

/-! ### Reading what was shown -/

theorem detached_jsonItems (items : List Value) (rest : List Char) :
    Detached (Value.jsonItems items ++ rest) := by
  cases items <;> exact detached_cons rfl _

theorem detached_jsonEntries (entries : List (String × Value)) (rest : List Char) :
    Detached (Value.jsonEntries entries ++ rest) := by
  cases entries with
  | nil => exact detached_cons rfl _
  | cons e entries => exact detached_cons rfl _

/-- The text of a value is not empty. -/
theorem length_jsonText_pos (v : Value) : 0 < v.jsonText.length := by
  obtain ⟨d, ds, htext, -⟩ := opening_jsonText v
  rw [htext]
  exact Nat.succ_pos _

theorem length_jsonItems_pos (items : List Value) : 0 < (Value.jsonItems items).length := by
  cases items <;> exact Nat.succ_pos _

theorem length_jsonEntries_pos (entries : List (String × Value)) :
    0 < (Value.jsonEntries entries).length := by
  cases entries with
  | nil => exact Nat.succ_pos _
  | cons e entries => exact Nat.succ_pos _

mutual

/-- What a value is shown as is read to its end, and as the document of that value. -/
theorem readValue_jsonText : ∀ (v : Value) (fuel depth : Nat) (rest : List Char),
    v.FloatsReadBack → v.depth < depth → v.jsonText.length ≤ fuel → Detached rest →
    readValue fuel depth (v.jsonText ++ rest) = .ok (v.toDocument, rest) := by
  intro v fuel depth rest hfloats hdepth hfuel hrest
  obtain ⟨fuel, rfl⟩ := Nat.exists_eq_add_one.mpr
    (Nat.lt_of_lt_of_le (length_jsonText_pos v) hfuel)
  match v with
  | .null =>
      rw [readValue.eq_def]
      rfl
  | .bool true =>
      rw [readValue.eq_def]
      rfl
  | .bool false =>
      rw [readValue.eq_def]
      rfl
  | .number n => exact readValue_number hfloats hrest
  | .string s => exact readValue_quote s rest
  | .list [] =>
      obtain ⟨d, rfl⟩ : ∃ d, depth = d + 2 := Nat.exists_eq_add_of_le' hdepth
      obtain ⟨f, rfl⟩ : ∃ f, fuel = f + 1 :=
        Nat.exists_eq_add_of_le' (Nat.le_of_succ_le_succ hfuel)
      exact readValue_array (readItems_close true)
  | .list (item :: items) =>
      have hitem := length_jsonText_pos item
      have hitems := length_jsonItems_pos items
      rw [Value.depth, Value.depthItems] at hdepth
      simp only [Value.jsonText, List.length_append, List.length_cons] at hfuel
      obtain ⟨d, rfl⟩ : ∃ d, depth = d + 2 := Nat.exists_eq_add_of_le' (by omega)
      obtain ⟨f, rfl⟩ : ∃ f, fuel = f + 1 := Nat.exists_eq_add_of_le' (by omega)
      simp only [Value.jsonText, List.cons_append, List.append_assoc]
      exact readValue_array (readItems_cons true ((opening_jsonText item).append _)
        (readValue_jsonText item f (d + 1) _ hfloats.1 (by omega) (by omega)
          (detached_jsonItems items rest))
        (readItems_jsonItems items f (d + 1) rest hfloats.2 (by omega) (by omega)))
  | .map [] =>
      obtain ⟨d, rfl⟩ : ∃ d, depth = d + 2 := Nat.exists_eq_add_of_le' hdepth
      obtain ⟨f, rfl⟩ : ∃ f, fuel = f + 1 :=
        Nat.exists_eq_add_of_le' (Nat.le_of_succ_le_succ hfuel)
      exact readValue_object (readMembers_close true)
  | .map ((key, value) :: entries) =>
      have hvalue := length_jsonText_pos value
      have hentries := length_jsonEntries_pos entries
      rw [Value.depth, Value.depthEntries] at hdepth
      simp only [Value.jsonText, List.length_append, List.length_cons] at hfuel
      obtain ⟨d, rfl⟩ : ∃ d, depth = d + 2 := Nat.exists_eq_add_of_le' (by omega)
      obtain ⟨f, rfl⟩ : ∃ f, fuel = f + 1 := Nat.exists_eq_add_of_le' (by omega)
      simp only [Value.jsonText, List.cons_append, List.append_assoc]
      exact readValue_object (readMembers_cons true key
        (readValue_jsonText value f (d + 1) _ hfloats.1 (by omega) (by omega)
          (detached_jsonEntries entries rest))
        (readMembers_jsonEntries entries f (d + 1) rest hfloats.2 (by omega) (by omega)))

/-- The items behind the first one are read up to the closing bracket. -/
theorem readItems_jsonItems : ∀ (items : List Value) (fuel depth : Nat) (rest : List Char),
    Value.ItemsReadBack items → Value.depthItems items < depth →
    (Value.jsonItems items).length ≤ fuel →
    readItems fuel depth false (Value.jsonItems items ++ rest)
      = .ok (Value.toDocuments items, rest) := by
  intro items fuel depth rest hfloats hdepth hfuel
  obtain ⟨fuel, rfl⟩ := Nat.exists_eq_add_one.mpr
    (Nat.lt_of_lt_of_le (length_jsonItems_pos items) hfuel)
  match items with
  | [] => exact readItems_close false
  | item :: items =>
      rw [Value.depthItems] at hdepth
      simp only [Value.jsonItems, List.length_append, List.length_cons] at hfuel
      simp only [Value.jsonItems, List.cons_append, List.append_assoc]
      exact readItems_cons false ((opening_jsonText item).append _)
        (readValue_jsonText item fuel depth _ hfloats.1 (by omega) (by omega)
          (detached_jsonItems items rest))
        (readItems_jsonItems items fuel depth rest hfloats.2 (by omega) (by omega))

/-- The entries behind the first one are read up to the closing brace. -/
theorem readMembers_jsonEntries : ∀ (entries : List (String × Value)) (fuel depth : Nat)
    (rest : List Char), Value.EntriesReadBack entries → Value.depthEntries entries < depth →
    (Value.jsonEntries entries).length ≤ fuel →
    readMembers fuel depth false (Value.jsonEntries entries ++ rest)
      = .ok (Value.toMembers entries, rest) := by
  intro entries fuel depth rest hfloats hdepth hfuel
  obtain ⟨fuel, rfl⟩ := Nat.exists_eq_add_one.mpr
    (Nat.lt_of_lt_of_le (length_jsonEntries_pos entries) hfuel)
  match entries with
  | [] => exact readMembers_close false
  | (key, value) :: entries =>
      rw [Value.depthEntries] at hdepth
      simp only [Value.jsonEntries, List.length_append, List.length_cons] at hfuel
      simp only [Value.jsonEntries, List.cons_append, List.append_assoc]
      exact readMembers_cons false key
        (readValue_jsonText value fuel depth _ hfloats.1 (by omega) (by omega)
          (detached_jsonEntries entries rest))
        (readMembers_jsonEntries entries fuel depth rest hfloats.2 (by omega) (by omega))

end

/-- The text of a value is read as the document of that value. -/
theorem parse_display {v : Value} (depth : v.depth ≤ 127) (floats : v.FloatsReadBack) :
    parse v.display = .ok v.toDocument := by
  have read : readText v.jsonText = .ok v.toDocument := by
    have value := readValue_jsonText v (2 * v.jsonText.length + 2) depthBound [] floats
      (Nat.lt_succ_of_le depth) (by omega) detached_nil
    rw [List.append_nil] at value
    unfold readText
    rw [value]
    rfl
  unfold parse Value.display
  rw [String.toList_ofList]
  dsimp only
  rw [read]

end Json

namespace Value

/-! ### Decoding what was read -/

mutual

/-- The document of a value whose maps are in order is decoded into that value. -/
theorem toValue_toDocument : ∀ v : Value, v.Ordered → v.toDocument.toValue = v
  | null, _ => rfl
  | bool _, _ => rfl
  | number _, _ => rfl
  | string _, _ => rfl
  | list items, h => congrArg list (toValues_toDocuments items h)
  | map entries, h => congrArg map (toEntries_toMembers entries [] h.1 h.2)

/-- The documents of ordered items are decoded into those items. -/
theorem toValues_toDocuments : ∀ items : List Value, ItemsOrdered items →
    JsonDocument.toValues (toDocuments items) = items
  | [], _ => rfl
  | item :: items, h =>
      congrArg₂ List.cons (toValue_toDocument item h.1) (toValues_toDocuments items h.2)

/-- The members of a map in order are entered one behind the other. -/
theorem toEntries_toMembers : ∀ entries before : List (String × Value),
    Entries.Sorted (before ++ entries) → EntriesOrdered entries →
    JsonDocument.toEntries before (toMembers entries) = before ++ entries
  | [], before, _, _ => (List.append_nil before).symm
  | (key, value) :: entries, before, hsorted, hordered => by
      have hlast : ∀ e ∈ before, e.1 < key := fun e he =>
        (List.pairwise_append.mp hsorted).2.2 e he (key, value) List.mem_cons_self
      have hrest := toEntries_toMembers entries (before ++ [(key, value)])
        (by rw [List.append_assoc]; exact hsorted) hordered.2
      rw [toMembers, JsonDocument.toEntries, toValue_toDocument value hordered.1,
        Entries.insert_last key value before hlast, hrest, List.append_assoc]
      rfl

end

/-- **A value that was shown is read back as it was.**  The value may be nested as deep as the
reader allows, and of its numbers only the floats need to be such that they are read back. -/
theorem ofJson?_display {v : Value} (hordered : v.Ordered) (hdepth : v.depth ≤ 127)
    (hfloats : v.FloatsReadBack) : ofJson? v.display = some v := by
  have hvalue : Json.readValue (2 * v.jsonText.length + 2) Json.depthBound v.jsonText
      = .ok (v.toDocument, []) := by
    have hread := Json.readValue_jsonText v (2 * v.jsonText.length + 2) Json.depthBound []
      hfloats (Nat.lt_succ_of_le hdepth) (by omega) Json.detached_nil
    rw [List.append_nil] at hread
    exact hread
  have htext : Json.readText v.jsonText = .ok v.toDocument := by
    unfold Json.readText
    rw [hvalue]
    rfl
  have hparse : Json.parse v.display = .ok v.toDocument := by
    unfold Json.parse display
    rw [String.toList_ofList]
    dsimp only
    rw [htext]
  unfold ofJson?
  rw [hparse]
  exact congrArg some (toValue_toDocument v hordered)

/-- A map with the empty key, keys and strings that have to be escaped, the integers at both ends
of their range, floats and empty containers. -/
theorem ofJson?_display_map :
    let v : Value := map
      [("", number (.int 18446744073709551615 (by decide))),
       ("\t\"\\", list [string "\u2028/\x00\x7f", null, list [], map []]),
       ("n", map [("a", number (.int (-9223372036854775808) (by decide))), ("b", bool true)]),
       ("x", list [number (.float 0.5 (by decide)), number (.float (-0.0) (by decide))])]
    v.Ordered ∧ v.depth ≤ 127 ∧ v.FloatsReadBack ∧ ofJson? v.display = some v := by
  intro v
  have hordered : v.Ordered := by
    simp only [v, Ordered, EntriesOrdered, ItemsOrdered, Entries.Sorted, and_true, true_and]
    decide
  have hfloats : v.FloatsReadBack := by
    simp only [v, FloatsReadBack, EntriesReadBack, ItemsReadBack, and_true, true_and]
    exact ⟨fun _ _ h => (by cases h), fun _ _ h => (by cases h), fun _ _ _ => rfl,
      fun _ _ _ => rfl⟩
  exact ⟨hordered, by decide, hfloats, ofJson?_display hordered (by decide) hfloats⟩

end Value
end Lookout
