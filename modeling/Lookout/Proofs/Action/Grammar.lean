/-
The grammar of action definitions, and that decoding accepts nothing else.

What a definition has to be is said here without an order in which its fields are looked at: which
keys must hold what, which may be absent, and what the action then holds.  `Describes` is that
grammar, and decoding finds the one action that a value describes, or an error if there is none.
The fields of another kind of action, and keys that no kind knows, are not part of it, whatever
they hold.
-/
import Lookout.Action.Decode
import Lookout.Proofs.Except
import Lookout.Proofs.Text.Casing
import Lookout.Proofs.Value.Ordered

namespace Lookout

namespace Action

/-! ### The grammar -/

/-- The text of a key: the string that it is bound to, or a default if the key is absent. -/
def TextOf (entries : Entries Value) (name default text : String) : Prop :=
  entries.find? name = some (.string text) ∨ entries.find? name = none ∧ text = default

/-- Headers as the entries of a map. -/
def headerValues (headers : List (String × String)) : List (String × Value) :=
  headers.map fun header => (header.1, .string header.2)

/-- The headers of a definition: those of a map of strings, or none if the key is absent. -/
def HeadersOf (entries : Entries Value) (headers : List (String × String)) : Prop :=
  entries.find? "headers" = some (.map (headerValues headers)) ∨
    entries.find? "headers" = none ∧ headers = []

/-- What the fields of a definition must hold for a request. -/
structure RequestOf (entries : Entries Value) (request : HttpAction) : Prop where
  url : entries.find? "url" = some (.string request.url)
  headers : HeadersOf entries request.headers
  body : TextOf entries "body" "" request.body
  /-- The method is kept in upper case, and it is that which must be a token. -/
  method : ∃ written, TextOf entries "method" "GET" written ∧
    request.method = Text.toUpper written ∧ isToken request.method = true

/-- What the fields of a definition must hold for an action. -/
def FieldsOf (entries : Entries Value) : Action → Prop
  | log message => TextOf entries "message" "" message
  | slack text => TextOf entries "text" "" text
  | http request => RequestOf entries request

/-- The definitions of an action: maps whose `type` is the name of its kind, in any letter case,
and whose fields hold what it holds. -/
inductive Describes : Value → Action → Prop where
  | map {entries : Entries Value} {type : String} {a : Action}
      (typed : entries.find? "type" = some (.string type))
      (named : Text.toLower type = a.kind.name)
      (fields : FieldsOf entries a) : Describes (.map entries) a

/-! ### Fields -/

theorem textField?_eq_ok {entries : Entries Value} {name : String} {found : Option String} :
    textField? name entries = .ok found ↔ entries.find? name = found.map Value.string := by
  unfold textField?
  cases entries.find? name with
  | none =>
      cases found with
      | none => exact iff_of_true rfl rfl
      | some text =>
          constructor
          · intro h
            cases h
          · intro h
            cases h
  | some v =>
      constructor
      · intro h
        cases v with
        | string s =>
            cases h
            rfl
        | null | bool _ | number _ | list _ | map _ => cases h
      · intro h
        cases found with
        | none => cases h
        | some text =>
            cases Option.some.inj h
            rfl

theorem textOf_iff {entries : Entries Value} {name default text : String} :
    TextOf entries name default text ↔
      ∃ found, textField? name entries = .ok found ∧ found.getD default = text := by
  unfold TextOf
  simp only [textField?_eq_ok]
  constructor
  · rintro (there | ⟨absent, rfl⟩)
    · exact ⟨some text, there, rfl⟩
    · exact ⟨none, absent, rfl⟩
  · rintro ⟨found, there, rfl⟩
    cases found with
    | none => exact Or.inr ⟨there, rfl⟩
    | some text => exact Or.inl there

theorem headerEntries_eq_ok : ∀ {entries : List (String × Value)} {headers},
    headerEntries entries = .ok headers ↔ entries = headerValues headers := by
  intro entries
  induction entries with
  | nil =>
      intro headers
      cases headers with
      | nil => exact iff_of_true rfl rfl
      | cons header headers =>
          constructor
          · intro h
            cases h
          · intro h
            cases h
  | cons entry rest ih =>
      intro headers
      obtain ⟨name, v⟩ := entry
      constructor
      · intro h
        obtain ⟨text, htext, h⟩ := bind_eq_ok h
        obtain ⟨others, hothers, h⟩ := bind_eq_ok h
        cases h
        cases v with
        | string s =>
            cases htext
            rw [ih.mp hothers]
            rfl
        | null | bool _ | number _ | list _ | map _ => cases htext
      · intro h
        cases headers with
        | nil => cases h
        | cons header headers =>
            cases h
            exact (bind_of_eq_ok rfl _).trans (bind_of_eq_ok (ih.mpr rfl) _)

theorem headersOf_eq_ok {entries : Entries Value} {headers : List (String × String)} :
    headersOf entries = .ok headers ↔ HeadersOf entries headers := by
  unfold headersOf HeadersOf
  cases entries.find? "headers" with
  | none =>
      constructor
      · intro h
        cases h
        exact Or.inr ⟨rfl, rfl⟩
      · rintro (h | ⟨-, rfl⟩)
        · cases h
        · rfl
  | some v =>
      cases v with
      | map fields =>
          have same : headersField (.map fields) = .ok headers ↔ fields = headerValues headers :=
            headerEntries_eq_ok
          simp [same]
      | null | bool _ | number _ | string _ | list _ =>
          constructor
          · intro h
            cases h
          · rintro (h | ⟨h, -⟩)
            · cases h
            · cases h

/-! ### Kinds -/

theorem ofName?_eq_some {name : String} {kind : ActionKind} :
    ActionKind.ofName? name = some kind ↔ name = kind.name := by
  unfold ActionKind.ofName?
  constructor
  · intro h
    have named := List.find?_some h
    exact (of_decide_eq_true named).symm
  · rintro rfl
    cases kind with
    | log => decide
    | http => decide
    | slack => decide

/-- An action that is made of one text is read off a map that holds the text. -/
theorem textAction_eq_ok {entries : Entries Value} {name : String} {make : String → Action}
    {a : Action} :
    ((textField? name entries).bind fun found => .ok (make (found.getD ""))) = .ok a ↔
      ∃ text, a = make text ∧ TextOf entries name "" text := by
  constructor
  · intro h
    obtain ⟨found, hfound, h⟩ := bind_eq_ok h
    cases h
    exact ⟨_, rfl, textOf_iff.mpr ⟨found, hfound, rfl⟩⟩
  · rintro ⟨text, rfl, fields⟩
    obtain ⟨found, hfound, rfl⟩ := textOf_iff.mp fields
    exact bind_of_eq_ok hfound _

/-- A request as it is written is read off a map whose fields hold it. -/
theorem decodeRequest_eq_ok {entries : Entries Value} {request : HttpAction} :
    decodeRequest entries = .ok request ↔
      entries.find? "url" = some (.string request.url) ∧ HeadersOf entries request.headers ∧
        TextOf entries "body" "" request.body ∧ TextOf entries "method" "GET" request.method := by
  constructor
  · intro h
    obtain ⟨body, hbody, h⟩ := bind_eq_ok h
    obtain ⟨headers, hheaders, h⟩ := bind_eq_ok h
    obtain ⟨method, hmethod, h⟩ := bind_eq_ok h
    obtain ⟨url, hurl, h⟩ := bind_eq_ok h
    cases url with
    | none => cases h
    | some url =>
        cases h
        exact ⟨textField?_eq_ok.mp hurl, headersOf_eq_ok.mp hheaders,
          textOf_iff.mpr ⟨body, hbody, rfl⟩, textOf_iff.mpr ⟨method, hmethod, rfl⟩⟩
  · rintro ⟨hurl, hheaders, hbody, hmethod⟩
    obtain ⟨method, url, headers, body⟩ := request
    obtain ⟨foundBody, readBody, rfl⟩ := textOf_iff.mp hbody
    obtain ⟨foundMethod, readMethod, rfl⟩ := textOf_iff.mp hmethod
    have readUrl : textField? "url" entries = .ok (some url) := textField?_eq_ok.mpr hurl
    calc decodeRequest entries
      _ = _ := bind_of_eq_ok readBody _
      _ = _ := bind_of_eq_ok (headersOf_eq_ok.mpr hheaders) _
      _ = _ := bind_of_eq_ok readMethod _
      _ = _ := bind_of_eq_ok readUrl _

theorem normalizeMethod_eq_ok {written method : String} :
    normalizeMethod written = .ok method ↔
      method = Text.toUpper written ∧ isToken method = true := by
  unfold normalizeMethod
  by_cases token : isToken (Text.toUpper written) = true
  · simp only [token, if_true, Except.ok.injEq]
    constructor
    · rintro rfl
      exact ⟨rfl, token⟩
    · rintro ⟨rfl, -⟩
      rfl
  · simp only [token, if_false, reduceCtorEq, false_iff]
    rintro ⟨rfl, h⟩
    exact token h

/-- A map describes the action of a kind that is decoded from it. -/
theorem decodeKind_eq_ok {kind : ActionKind} {entries : Entries Value} {a : Action} :
    decodeKind kind entries = .ok a ↔ a.kind = kind ∧ FieldsOf entries a := by
  cases kind with
  | log =>
      refine mapError_eq_ok.trans (textAction_eq_ok.trans ⟨?_, ?_⟩)
      · rintro ⟨message, rfl, fields⟩
        exact ⟨rfl, fields⟩
      · rintro ⟨hkind, fields⟩
        cases a with
        | log message => exact ⟨message, rfl, fields⟩
        | http _ | slack _ => cases hkind
  | slack =>
      refine mapError_eq_ok.trans (textAction_eq_ok.trans ⟨?_, ?_⟩)
      · rintro ⟨text, rfl, fields⟩
        exact ⟨rfl, fields⟩
      · rintro ⟨hkind, fields⟩
        cases a with
        | slack text => exact ⟨text, rfl, fields⟩
        | log _ | http _ => cases hkind
  | http =>
      constructor
      · intro h
        obtain ⟨written, hwritten, h⟩ := bind_eq_ok h
        obtain ⟨method, hmethod, h⟩ := bind_eq_ok h
        cases h
        obtain ⟨hurl, hheaders, hbody, hasWritten⟩ :=
          decodeRequest_eq_ok.mp (mapError_eq_ok.mp hwritten)
        obtain ⟨hupper, htoken⟩ := normalizeMethod_eq_ok.mp hmethod
        exact ⟨rfl, hurl, hheaders, hbody, written.method, hasWritten, hupper, htoken⟩
      · rintro ⟨hkind, fields⟩
        cases a with
        | log _ | slack _ => cases hkind
        | http request =>
            obtain ⟨hurl, hheaders, hbody, written, hwritten, hupper, htoken⟩ := fields
            have hrequest : decodeRequest entries = .ok { request with method := written } :=
              decodeRequest_eq_ok.mpr ⟨hurl, hheaders, hbody, hwritten⟩
            have hmethod : normalizeMethod written = .ok request.method :=
              normalizeMethod_eq_ok.mpr ⟨hupper, htoken⟩
            exact (bind_of_eq_ok (mapError_eq_ok.mpr hrequest) _).trans (bind_of_eq_ok hmethod _)

/-! ### Decoding -/

/-- Decoding finds the action that a value describes. -/
theorem decode_eq_ok_iff {raw : Value} {a : Action} : decode raw = .ok a ↔ Describes raw a := by
  constructor
  · intro h
    unfold decode at h
    split at h
    · case h_1 entries =>
      split at h
      · cases h
      · case h_2 type typed =>
        dsimp only at h
        split at h
        · case h_1 kind named =>
          obtain ⟨rfl, fields⟩ := decodeKind_eq_ok.mp h
          exact .map typed (ofName?_eq_some.mp named) fields
        · cases h
      · cases h
    · cases h
  · rintro ⟨typed, named, fields⟩
    unfold decode
    dsimp only
    rw [typed]
    dsimp only
    rw [ofName?_eq_some.mpr named]
    exact decodeKind_eq_ok.mpr ⟨rfl, fields⟩

/-- What describes no action is refused. -/
theorem decode_eq_error_iff {raw : Value} :
    (∃ e : ActionDecodeError, decode raw = .error e) ↔ ¬ ∃ a, Describes raw a := by
  simp only [← decode_eq_ok_iff]
  cases decode raw with
  | error e => simp
  | ok a => simp

/-! ### Other keys -/

/-- The kind that a map names by its `type`. -/
def kindOf? (entries : Entries Value) : Option ActionKind :=
  match entries.find? "type" with
  | some (.string type) => ActionKind.ofName? (Text.toLower type)
  | _ => none

/-- The keys that matter for actions of a kind, besides the `type`. -/
def fieldNames : ActionKind → List String
  | .log => ["message"]
  | .slack => ["text"]
  | .http => ["url", "method", "headers", "body"]

/-- Whether two maps bind the `type`, and the keys of the kind that it names, to the same. -/
structure Agree (entries others : Entries Value) : Prop where
  type : others.find? "type" = entries.find? "type"
  fields : ∀ kind, kindOf? entries = some kind →
    ∀ name ∈ fieldNames kind, others.find? name = entries.find? name

theorem textField?_congr {entries others : Entries Value} {name : String}
    (same : others.find? name = entries.find? name) :
    textField? name others = textField? name entries := by
  unfold textField?
  rw [same]

theorem decodeKind_congr {kind : ActionKind} {entries others : Entries Value}
    (same : ∀ name ∈ fieldNames kind, others.find? name = entries.find? name) :
    decodeKind kind others = decodeKind kind entries := by
  unfold decodeKind
  cases kind with
  | log =>
      unfold decodeLog
      rw [textField?_congr (same "message" (by decide))]
  | slack =>
      unfold decodeSlack
      rw [textField?_congr (same "text" (by decide))]
  | http =>
      unfold decodeRequest headersOf
      rw [textField?_congr (same "body" (by decide)), same "headers" (by decide),
        textField?_congr (same "method" (by decide)), textField?_congr (same "url" (by decide))]

/-- Maps that agree on the keys that matter are decoded alike, errors included. -/
theorem decode_congr {entries others : Entries Value} (same : Agree entries others) :
    decode (.map others) = decode (.map entries) := by
  unfold decode
  dsimp only
  rw [same.type]
  cases typed : entries.find? "type" with
  | none => rfl
  | some v =>
      cases v with
      | string type =>
          dsimp only
          cases named : ActionKind.ofName? (Text.toLower type) with
          | none => rfl
          | some kind =>
              apply decodeKind_congr
              apply same.fields kind
              unfold kindOf?
              rw [typed]
              exact named
      | null | bool _ | number _ | list _ | map _ => rfl

/-! ### Back and forth -/

/-- The fields of an action, as the entries of a map. -/
def toEntries : Action → Entries Value
  | log message => [("message", .string message), ("type", .string "log")]
  | slack text => [("text", .string text), ("type", .string "slack")]
  | http request =>
    [("body", .string request.body), ("headers", .map (headerValues request.headers)),
      ("method", .string request.method), ("type", .string "http"), ("url", .string request.url)]

/-- The definition that states all fields of an action. -/
def toValue (a : Action) : Value :=
  .map a.toEntries

/-- Whether the method of an action, if it has one, is a token in upper case. -/
def Normal : Action → Prop
  | http request =>
    request.method ≠ "" ∧ isToken request.method = true ∧
      Text.toUpper request.method = request.method
  | log _ | slack _ => True

theorem normal_of_describes {raw : Value} {a : Action} (h : Describes raw a) : a.Normal := by
  obtain ⟨-, -, fields⟩ := h
  cases a with
  | log _ => trivial
  | slack _ => trivial
  | http request =>
      obtain ⟨written, -, upper, token⟩ := fields.method
      refine ⟨?_, token, ?_⟩
      · intro empty
        rw [empty] at token
        exact absurd token (by decide)
      · rw [upper] at token ⊢
        exact Text.toUpper_toUpper_of_isToken token

theorem toLower_name (kind : ActionKind) : Text.toLower kind.name = kind.name := by
  cases kind with
  | log => decide +kernel
  | http => decide +kernel
  | slack => decide +kernel

/-- The definition of an action describes it. -/
theorem describes_toValue {a : Action} (h : a.Normal) : Describes a.toValue a := by
  have named := toLower_name a.kind
  cases a with
  | log message => exact .map rfl named (Or.inl rfl)
  | slack text => exact .map rfl named (Or.inl rfl)
  | http request =>
      obtain ⟨-, token, upper⟩ := h
      exact .map rfl named
        ⟨rfl, Or.inl rfl, Or.inl rfl, request.method, Or.inl rfl, upper.symm, token⟩

theorem entriesOrdered_headerValues (headers : List (String × String)) :
    Value.EntriesOrdered (headerValues headers) := by
  induction headers with
  | nil => trivial
  | cons header headers ih => exact ⟨trivial, ih⟩

theorem sorted_toEntries (a : Action) : Entries.Sorted a.toEntries := by
  have keys : a.toEntries.keys.Pairwise (· < ·) := by
    cases a with
    | log message =>
        show List.Pairwise (· < ·) ["message", "type"]
        decide
    | slack text =>
        show List.Pairwise (· < ·) ["text", "type"]
        decide
    | http request =>
        show List.Pairwise (· < ·) ["body", "headers", "method", "type", "url"]
        decide
  exact List.pairwise_map.mp keys

theorem sorted_headerValues {entries : Entries Value} {headers : List (String × String)}
    (h : HeadersOf entries headers) (ordered : Value.EntriesOrdered entries) :
    Entries.Sorted (headerValues headers) := by
  rcases h with there | ⟨-, rfl⟩
  · exact (ordered.of_find? there).1
  · exact List.Pairwise.nil

/-- The definition of an action that a value in order describes is in order. -/
theorem ordered_toValue_of_describes {raw : Value} {a : Action} (h : Describes raw a)
    (ordered : raw.Ordered) : a.toValue.Ordered := by
  obtain ⟨-, -, fields⟩ := h
  refine ⟨sorted_toEntries a, ?_⟩
  cases a with
  | log message => exact ⟨trivial, trivial, trivial⟩
  | slack text => exact ⟨trivial, trivial, trivial⟩
  | http request =>
      have headers : (Value.map (headerValues request.headers)).Ordered :=
        ⟨sorted_headerValues fields.headers ordered.2, entriesOrdered_headerValues _⟩
      exact ⟨trivial, headers, trivial, trivial, trivial, trivial⟩

/-- **Decoding accepts the grammar of action definitions and nothing else.**  It finds the action
that a value describes, and fails with an error of its own if there is none; only the `type` and
the keys of its kind are looked at; the method of a request comes out as a token in upper case; and
the fields of the action, put in a map, describe it again. -/
theorem decode_grammar (raw : Value) :
    (∀ a, decode raw = .ok a ↔ Describes raw a) ∧
      ((∃ e : ActionDecodeError, decode raw = .error e) ↔ ¬ ∃ a, Describes raw a) ∧
      (∀ entries others, raw = .map entries → Agree entries others →
        decode (.map others) = decode raw) ∧
      (∀ a, decode raw = .ok a → a.Normal ∧ decode a.toValue = .ok a ∧
        (raw.Ordered → a.toValue.Ordered)) := by
  refine ⟨fun a => decode_eq_ok_iff, decode_eq_error_iff, ?_, ?_⟩
  · rintro entries others rfl same
    exact decode_congr same
  · intro a h
    have described := decode_eq_ok_iff.mp h
    have normal := normal_of_describes described
    exact ⟨normal, decode_eq_ok_iff.mpr (describes_toValue normal),
      ordered_toValue_of_describes described⟩

/-- A request with a method in letters that only the upper case makes one, without headers, and
with a key that belongs to another kind and holds what it could not hold there. -/
def oddPost : Entries Value :=
  [("message", .null), ("method", .string "po\u017ft"), ("type", .string "HTTP"),
    ("url", .string "http://h/")]

/-- The odd request is decoded, does not depend on the key that is not its own, and is decoded once
more from its fields. -/
theorem decode_grammar_oddPost :
    Describes (.map oddPost) (.http ⟨"POST", "http://h/", [], ""⟩) ∧
      decode (.map oddPost.tail) = decode (.map oddPost) ∧
      decode (Action.http ⟨"POST", "http://h/", [], ""⟩).toValue =
        .ok (.http ⟨"POST", "http://h/", [], ""⟩) := by
  have decoded : decode (.map oddPost) = .ok (.http ⟨"POST", "http://h/", [], ""⟩) := by
    have found : (decode (.map oddPost)).toOption.map id =
        some (.http ⟨"POST", "http://h/", [], ""⟩) := by
      decide +kernel
    obtain ⟨a, ha, rfl⟩ := eq_ok_of_toOption_map found
    exact ha
  have same : Agree oddPost oddPost.tail := by
    refine ⟨rfl, ?_⟩
    intro kind named name mem
    have request : kindOf? oddPost = some .http := by decide +kernel
    cases request.symm.trans named
    simp only [fieldNames, List.mem_cons, List.not_mem_nil, or_false] at mem
    rcases mem with rfl | rfl | rfl | rfl
    · rfl
    · rfl
    · rfl
    · rfl
  exact ⟨((decode_grammar _).1 _).mp decoded, (decode_grammar _).2.2.1 _ _ rfl same,
    ((decode_grammar _).2.2.2 _ decoded).2.1⟩

example : (decode (.map [("text", .string "hi"), ("type", .string "slac\u212a")])).toOption =
    some (.slack "hi") := by
  decide +kernel

end Action

end Lookout
