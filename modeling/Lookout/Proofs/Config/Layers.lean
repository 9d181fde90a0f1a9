/-
Configurations in layers: the command line over a file over the defaults.

The reader goes through a document entry by entry and has the settings so far with it.  What comes
of that can be said in one go: a setting is what the document says about its name, or else its
default.  So the configuration that is loaded can be put together setting by setting from the three
layers, `layered`, and nothing else of a file matters.

This is not the whole condition for a configuration to be loaded.  A file has to be valid by itself,
and a setting of the command line does not mend the one of the file that it stands over.
-/
import Lookout.Config.Load
import Lookout.Proofs.Except

namespace Lookout

open Toml (Item)

/-! ### What a document says -/

namespace Toml

/-- The text that an item is. -/
def Item.text? : Item → Option String
  | string s => some s
  | _ => none

/-- The natural number that an item is. -/
def Item.natural? : Item → Option Nat
  | integer n => if n < 0 then none else some n.toNat
  | _ => none

/-- The settings of the pool that an item holds, by name or by position. -/
def Item.poolEntries? : Item → Option Entries
  | table _ entries => some entries
  | date => some []
  | array items => some (InterpreterConfig.positions.zip items)
  | tables rows =>
    some (InterpreterConfig.positions.zip (rows.map fun entries => .table .header entries))
  | _ => none

/-- What entries say about a key.  Were it there twice, the last one would count. -/
def Entries.said? {α : Type} (es : Entries) (key : String) (read : Item → Option α) : Option α :=
  es.reverse.findSome? fun e => if e.1 = key then read e.2 else none

variable {α : Type} {key : String} {read : Item → Option α}

theorem Entries.said?_nil : Entries.said? [] key read = none := rfl

theorem Entries.said?_cons (e : String × Item) (es : Entries) : Entries.said? (e :: es) key read
    = (Entries.said? es key read).or (Entries.said? [e] key read) := by
  simp [Entries.said?, List.findSome?_append]

theorem Entries.said?_singleton (e : String × Item) :
    Entries.said? [e] key read = if e.1 = key then read e.2 else none := by
  by_cases h : e.1 = key
  · cases hread : read e.2 <;> simp [Entries.said?, h, hread]
  · simp [Entries.said?, h]

end Toml

namespace Setting

theorem text_eq_ok {expected : String} {item : Item} (s : String) :
    Setting.text expected item = .ok s ↔ item.text? = some s := by
  cases item <;> simp [Setting.text, Item.text?]

theorem natural_eq_ok {expected : String} {item : Item} (n : Nat) :
    Setting.natural expected item = .ok n ↔ item.natural? = some n := by
  cases item with
  | integer k => by_cases h : k < 0 <;> simp [Setting.natural, Item.natural?, h]
  | _ => simp [Setting.natural, Item.natural?]

end Setting

/-- A setting that is read and taken. -/
theorem taken_eq_ok {ε α κ : Type} {x : Except ε α} {read : Option α}
    (hread : ∀ a, x = .ok a ↔ read = some a) (take : α → κ) (c' : κ) :
    (do let a ← x; .ok (take a)) = (.ok c' : Except ε κ) ↔
      ∃ a, read = some a ∧ c' = take a := by
  constructor
  · intro h
    obtain ⟨a, ha, hc'⟩ := bind_eq_ok h
    exact ⟨a, (hread a).mp ha, (Except.ok.inj hc').symm⟩
  · rintro ⟨a, ha, rfl⟩
    exact bind_of_eq_ok ((hread a).mpr ha) _

/-- Entries that are taken one after the other are taken in one go, if that is so of each. -/
theorem foldlM_eq_ok {ε κ α : Type} {enter : κ → α → Except ε κ} {typed : α → Prop}
    {given : List α → κ → κ}
    (henter : ∀ c e c', enter c e = .ok c' ↔ typed e ∧ c' = given [e] c)
    (hnil : ∀ c, given [] c = c) (hcons : ∀ e es c, given (e :: es) c = given es (given [e] c)) :
    ∀ (es : List α) (c c' : κ),
      es.foldlM enter c = .ok c' ↔ (∀ e ∈ es, typed e) ∧ c' = given es c := by
  intro es
  induction es with
  | nil =>
      intro c c'
      rw [List.foldlM_nil, hnil]
      simp [pure, Except.pure, eq_comm]
  | cons e rest ih =>
      intro c c'
      rw [List.foldlM_cons, hcons, List.forall_mem_cons]
      constructor
      · intro h
        obtain ⟨mid, hmid, hrest⟩ := bind_eq_ok h
        obtain ⟨htyped, rfl⟩ := (henter c e mid).mp hmid
        obtain ⟨hall, hc'⟩ := (ih _ c').mp hrest
        exact ⟨⟨htyped, hall⟩, hc'⟩
      · rintro ⟨⟨htyped, hall⟩, hc'⟩
        have hmid := (henter c e _).mpr ⟨htyped, rfl⟩
        exact (bind_of_eq_ok hmid _).trans ((ih _ c').mpr ⟨hall, hc'⟩)

namespace InterpreterConfig

/-- An entry of the pool has the type of its setting, if it is one. -/
def IsTyped (e : String × Item) : Prop :=
  (e.1 = "pool_size" → e.2.natural?.isSome) ∧ (e.1 = "init_script" → e.2.text?.isSome)

/-- The settings with those of entries in their place. -/
def given (es : Toml.Entries) (c : InterpreterConfig) : InterpreterConfig where
  poolSize := (es.said? "pool_size" Item.natural?).getD c.poolSize
  initScript := (es.said? "init_script" Item.text?).or c.initScript

theorem given_nil (c : InterpreterConfig) : given [] c = c := by
  simp [given, Toml.Entries.said?_nil]

theorem given_cons (e : String × Item) (es : Toml.Entries) (c : InterpreterConfig) :
    given (e :: es) c = given es (given [e] c) := by
  simp only [given, Toml.Entries.said?_cons e es, Option.getD_or, Option.or_assoc]

theorem enter_eq_ok (c : InterpreterConfig) (e : String × Item) (c' : InterpreterConfig) :
    c.enter e = .ok c' ↔ IsTyped e ∧ c' = given [e] c := by
  obtain ⟨key, item⟩ := e
  unfold enter given IsTyped
  simp only [Toml.Entries.said?_singleton]
  split
  · rw [taken_eq_ok Setting.natural_eq_ok]
    cases hread : item.natural? <;> simp
  · rw [taken_eq_ok Setting.text_eq_ok]
    cases hread : item.text? <;> simp
  · case _ hsize hscript =>
    have hother : key ≠ "pool_size" ∧ key ≠ "init_script" := ⟨hsize, hscript⟩
    simp [hother, eq_comm (a := c)]

theorem ofItem_eq_ok (item : Item) (c : InterpreterConfig) : ofItem item = .ok c ↔
    ∃ es, item.poolEntries? = some es ∧ (∀ e ∈ es, IsTyped e) ∧ c = given es default := by
  have hfold := foldlM_eq_ok enter_eq_ok given_nil given_cons
  cases item with
  | date =>
      simp only [ofItem, Item.poolEntries?, Except.ok.injEq, Option.some.injEq, exists_eq_left']
      rw [given_nil, eq_comm]
      simp
  | array items => simp [ofItem, Item.poolEntries?, hfold]
  | table origin entries => simp [ofItem, Item.poolEntries?, hfold]
  | tables rows => simp [ofItem, Item.poolEntries?, hfold]
  | _ => simp [ofItem, Item.poolEntries?]

end InterpreterConfig

namespace WatchConfig

/-- An entry has the type of its setting, if it is one. -/
def IsTyped (e : String × Item) : Prop :=
  (e.1 ∈ ["alerts", "search_addr", "webhook_endpoint"] → e.2.text?.isSome) ∧
  (e.1 ∈ ["cycle_timeout_secs", "http_timeout_secs"] → e.2.natural?.isSome) ∧
  (e.1 = "interpreter" → ∃ es, e.2.poolEntries? = some es ∧
    ∀ inner ∈ es, InterpreterConfig.IsTyped inner)

/-- A document has the types of the settings in it. -/
def WellTyped (es : Toml.Entries) : Prop :=
  ∀ e ∈ es, IsTyped e

/-- The settings with those of entries in their place. -/
def given (es : Toml.Entries) (c : WatchConfig) : WatchConfig where
  alerts := (es.said? "alerts" Item.text?).getD c.alerts
  searchAddr := (es.said? "search_addr" Item.text?).getD c.searchAddr
  webhookEndpoint := (es.said? "webhook_endpoint" Item.text?).or c.webhookEndpoint
  cycleTimeoutSecs := (es.said? "cycle_timeout_secs" Item.natural?).getD c.cycleTimeoutSecs
  httpTimeoutSecs := (es.said? "http_timeout_secs" Item.natural?).getD c.httpTimeoutSecs
  interpreter := ((es.said? "interpreter" Item.poolEntries?).map
    (InterpreterConfig.given · .default)).getD c.interpreter

theorem given_nil (c : WatchConfig) : given [] c = c := by
  simp [given, Toml.Entries.said?_nil]

theorem given_cons (e : String × Item) (es : Toml.Entries) (c : WatchConfig) :
    given (e :: es) c = given es (given [e] c) := by
  simp only [given, Toml.Entries.said?_cons e es, Option.getD_or, Option.or_assoc, Option.map_or]

theorem enter_eq_ok (c : WatchConfig) (e : String × Item) (c' : WatchConfig) :
    c.enter e = .ok c' ↔ IsTyped e ∧ c' = given [e] c := by
  obtain ⟨key, item⟩ := e
  unfold enter given IsTyped
  simp only [Toml.Entries.said?_singleton]
  split
  · rw [taken_eq_ok Setting.text_eq_ok]
    cases hread : item.text? <;> simp
  · rw [taken_eq_ok Setting.text_eq_ok]
    cases hread : item.text? <;> simp
  · rw [taken_eq_ok Setting.text_eq_ok]
    cases hread : item.text? <;> simp
  · rw [taken_eq_ok Setting.natural_eq_ok]
    cases hread : item.natural? <;> simp
  · rw [taken_eq_ok Setting.natural_eq_ok]
    cases hread : item.natural? <;> simp
  · constructor
    · intro h
      obtain ⟨i, hi, hc'⟩ := bind_eq_ok h
      obtain ⟨es, hes, htyped, rfl⟩ := (InterpreterConfig.ofItem_eq_ok item i).mp hi
      cases hc'
      refine ⟨⟨by simp, by simp, fun _ => ⟨es, hes, htyped⟩⟩, ?_⟩
      simp [hes]
    · rintro ⟨⟨-, -, htyped⟩, rfl⟩
      obtain ⟨es, hes, hinner⟩ := htyped rfl
      have hi := (InterpreterConfig.ofItem_eq_ok item _).mpr ⟨es, hes, hinner, rfl⟩
      exact (bind_of_eq_ok hi _).trans (by simp [hes])
  · case _ halerts haddr hendpoint hcycle hhttp hpool =>
    have hother : key ≠ "alerts" ∧ key ≠ "search_addr" ∧ key ≠ "webhook_endpoint" ∧
        key ≠ "cycle_timeout_secs" ∧ key ≠ "http_timeout_secs" ∧ key ≠ "interpreter" :=
      ⟨halerts, haddr, hendpoint, hcycle, hhttp, hpool⟩
    simp [hother, eq_comm (a := c)]

theorem decode_eq_ok {text : String} {c : WatchConfig} : decode text = .ok c ↔
    ∃ es, Toml.parse? text = some es ∧ WellTyped es ∧ c = given es default := by
  have hfold := foldlM_eq_ok enter_eq_ok given_nil given_cons
  unfold decode
  cases hparse : Toml.parse? text with
  | none => simp
  | some es => simp [hfold, WellTyped]

/-! ### The layers -/

/-- The configuration of a command line and a document, setting by setting: what the command line
says, or else what the document says, or else the default. -/
def layered (o : Overrides) (es : Toml.Entries) : WatchConfig where
  alerts := (o.alerts.or (es.said? "alerts" Item.text?)).getD default.alerts
  searchAddr := (o.searchAddr.or (es.said? "search_addr" Item.text?)).getD default.searchAddr
  webhookEndpoint := (o.webhookEndpoint.or (es.said? "webhook_endpoint" Item.text?)).or
    default.webhookEndpoint
  cycleTimeoutSecs := (es.said? "cycle_timeout_secs" Item.natural?).getD default.cycleTimeoutSecs
  httpTimeoutSecs := (es.said? "http_timeout_secs" Item.natural?).getD default.httpTimeoutSecs
  interpreter :=
    let pool : Toml.Entries := (es.said? "interpreter" Item.poolEntries?).getD []
    { poolSize := (o.scriptSlots.or (pool.said? "pool_size" Item.natural?)).getD
        default.interpreter.poolSize
      initScript := (o.scriptInit.or (pool.said? "init_script" Item.text?)).or
        default.interpreter.initScript }

/-- To go over the settings of a document with a command line comes to the layers. -/
theorem override_given (o : Overrides) (es : Toml.Entries) :
    (given es default).override o = layered o es := by
  cases hpool : Toml.Entries.said? es "interpreter" Item.poolEntries? with
  | none =>
      simp [override, given, layered, hpool, Option.getD_or, Option.or_assoc,
        Toml.Entries.said?_nil]
  | some inner =>
      simp [override, given, layered, hpool, Option.getD_or, Option.or_assoc,
        InterpreterConfig.given, default]

theorem given_eq_layered (es : Toml.Entries) : given es default = layered .none es := by
  rw [← override_given]
  rfl

/-! ### Loading -/

/-- No setting is empty or zero that must not be. -/
structure IsValid (c : WatchConfig) : Prop where
  alerts : c.alerts ≠ ""
  searchAddr : Text.isAllBlank c.searchAddr = false
  cycleTimeout : 0 < c.cycleTimeoutSecs
  httpTimeout : 0 < c.httpTimeoutSecs
  poolSize : 0 < c.interpreter.poolSize

theorem fault?_eq_none {c : WatchConfig} : c.fault? = none ↔ c.IsValid := by
  unfold fault?
  constructor
  · intro h
    split at h
    · cases h
    split at h
    · cases h
    split at h
    · cases h
    split at h
    · cases h
    split at h
    · cases h
    case _ halerts haddr hcycle hhttp hsize =>
      exact ⟨by simpa using halerts, by simpa using haddr, Nat.pos_of_ne_zero hcycle,
        Nat.pos_of_ne_zero hhttp, Nat.pos_of_ne_zero hsize⟩
  · intro h
    simp [h.alerts, h.searchAddr, Nat.ne_of_gt h.cycleTimeout, Nat.ne_of_gt h.httpTimeout,
      Nat.ne_of_gt h.poolSize]

theorem validate_eq_ok {c c' : WatchConfig} : c.validate = .ok c' ↔ c.IsValid ∧ c' = c := by
  rw [← fault?_eq_none]
  unfold validate
  cases h : c.fault? with
  | none => simp [eq_comm]
  | some fault => simp

theorem ofText_eq_ok {text : String} {c : WatchConfig} : ofText text = .ok c ↔
    ∃ es, Toml.parse? text = some es ∧ WellTyped es ∧ (layered .none es).IsValid ∧
      c = layered .none es := by
  constructor
  · intro h
    obtain ⟨d, hd, hchecked⟩ := bind_eq_ok h
    rw [mapError_eq_ok] at hd hchecked
    obtain ⟨es, hparse, htyped, rfl⟩ := decode_eq_ok.mp hd
    obtain ⟨hvalid, rfl⟩ := validate_eq_ok.mp hchecked
    rw [given_eq_layered] at hvalid ⊢
    exact ⟨es, hparse, htyped, hvalid, rfl⟩
  · rintro ⟨es, hparse, htyped, hvalid, rfl⟩
    have hd : decode text = .ok (layered .none es) :=
      decode_eq_ok.mpr ⟨es, hparse, htyped, (given_eq_layered es).symm⟩
    exact (bind_of_eq_ok (mapError_eq_ok.mpr hd) _).trans
      (mapError_eq_ok.mpr (validate_eq_ok.mpr ⟨hvalid, rfl⟩))

/-- The document of a configuration: that of its file, and an empty one where there is none. -/
def HasDocument (files : FileReader Id) (o : Overrides) (es : Toml.Entries) : Prop :=
  match o.config with
  | none => es = []
  | some path => ∃ text, (files path).run = .ok text ∧ Toml.parse? text = some es

theorem hasDocument_of_config {files : FileReader Id} {o : Overrides} {path : String}
    (hconfig : o.config = some path) {es : Toml.Entries} : HasDocument files o es ↔
      ∃ text, (files path).run = .ok text ∧ Toml.parse? text = some es := by
  simp [HasDocument, hconfig]

theorem load_of_config {files : FileReader Id} {o : Overrides} {path : String}
    (hconfig : o.config = some path) : (load files o).run
      = (((files path).run.mapError fun e => .unreadable ⟨.config, path, e⟩).bind ofText).bind
          fun c => (c.override o).validate.mapError .invalid := by
  have hfile : (ofFile files path).run
      = ((files path).run.mapError fun e => .unreadable ⟨.config, path, e⟩).bind ofText := by
    unfold ofFile FileReader.readFor
    rw [Id.run_bind, Id.run_bind, Id.run_pure]
    cases (files path).run with
    | error e => rfl
    | ok text => rfl
  rw [← hfile]
  unfold load
  rw [hconfig]
  rfl

theorem load_of_no_config {files : FileReader Id} {o : Overrides} (hconfig : o.config = none) :
    (load files o).run = (layered o []).validate.mapError .invalid := by
  have hlayered : default.override o = layered o [] := by
    rw [← override_given, given_nil]
  unfold load
  rw [hconfig, ← hlayered]
  rfl

/-- A configuration without a file rests on the defaults, which are valid. -/
theorem isValid_default : (layered .none []).IsValid := by
  rw [← given_eq_layered, given_nil, ← fault?_eq_none]
  decide +kernel

/-- A document of the right types is checked by itself, and then under the command line. -/
theorem load_of_document {files : FileReader Id} {o : Overrides} {es : Toml.Entries}
    (hdocument : HasDocument files o es) (htyped : WellTyped es) : (load files o).run
      = ((layered .none es).validate.bind fun _ => (layered o es).validate).mapError .invalid := by
  cases hconfig : o.config with
  | none =>
      have hes : es = [] := by simpa [HasDocument, hconfig] using hdocument
      subst hes
      have hvalid := validate_eq_ok.mpr ⟨isValid_default, rfl⟩
      rw [load_of_no_config hconfig, bind_of_eq_ok hvalid]
  | some path =>
      obtain ⟨text, hread, hparse⟩ := (hasDocument_of_config hconfig).mp hdocument
      have hdecode : decode text = .ok (layered .none es) :=
        decode_eq_ok.mpr ⟨es, hparse, htyped, (given_eq_layered es).symm⟩
      have htext : ofText text = (layered .none es).validate.mapError .invalid := by
        unfold ofText
        rw [hdecode]
        rfl
      have hover : (layered .none es).override o = layered o es := by
        rw [← given_eq_layered, override_given]
      rw [load_of_config hconfig, hread]
      change (ofText text).bind _ = _
      rw [htext]
      cases hown : (layered .none es).validate with
      | error fault => rfl
      | ok c =>
          obtain ⟨-, rfl⟩ := validate_eq_ok.mp hown
          change ((layered .none es).override o).validate.mapError ConfigError.invalid = _
          rw [hover]
          rfl

theorem load_of_fault {files : FileReader Id} {o : Overrides} {es : Toml.Entries}
    {fault : ConfigFault} (hdocument : HasDocument files o es) (htyped : WellTyped es)
    (hfault : (layered .none es).fault? = some fault) :
    (load files o).run = .error (.invalid fault) := by
  have hown : (layered .none es).validate = .error fault := by
    unfold validate
    rw [hfault]
  rw [load_of_document hdocument htyped, hown]
  rfl

theorem load_eq_ok {files : FileReader Id} {o : Overrides} {c : WatchConfig} :
    (load files o).run = .ok c ↔ ∃ es, HasDocument files o es ∧ WellTyped es ∧
      (layered .none es).IsValid ∧ (layered o es).IsValid ∧ c = layered o es := by
  constructor
  · intro h
    have hfound : ∃ es, HasDocument files o es ∧ WellTyped es := by
      cases hconfig : o.config with
      | none => exact ⟨[], by simp [HasDocument, hconfig], fun e he => by cases he⟩
      | some path =>
          rw [load_of_config hconfig] at h
          obtain ⟨d, hd, -⟩ := bind_eq_ok h
          obtain ⟨text, htext, hd⟩ := bind_eq_ok hd
          obtain ⟨es, hparse, htyped, -⟩ := ofText_eq_ok.mp hd
          exact ⟨es, (hasDocument_of_config hconfig).mpr ⟨text, mapError_eq_ok.mp htext, hparse⟩,
            htyped⟩
    obtain ⟨es, hdocument, htyped⟩ := hfound
    rw [load_of_document hdocument htyped, mapError_eq_ok] at h
    obtain ⟨d, hown, hover⟩ := bind_eq_ok h
    obtain ⟨hvalid, rfl⟩ := validate_eq_ok.mp hover
    exact ⟨es, hdocument, htyped, (validate_eq_ok.mp hown).1, hvalid, rfl⟩
  · rintro ⟨es, hdocument, htyped, hown, hvalid, rfl⟩
    rw [load_of_document hdocument htyped, mapError_eq_ok]
    exact (bind_of_eq_ok (validate_eq_ok.mpr ⟨hown, rfl⟩) _).trans
      (validate_eq_ok.mpr ⟨hvalid, rfl⟩)

/-- Two configurations of files agree on all that a command line leaves to the file. -/
structure AgreeBelow (o : Overrides) (c c' : WatchConfig) : Prop where
  alerts : o.alerts = none → c.alerts = c'.alerts
  searchAddr : o.searchAddr = none → c.searchAddr = c'.searchAddr
  webhookEndpoint : o.webhookEndpoint = none → c.webhookEndpoint = c'.webhookEndpoint
  cycleTimeoutSecs : c.cycleTimeoutSecs = c'.cycleTimeoutSecs
  httpTimeoutSecs : c.httpTimeoutSecs = c'.httpTimeoutSecs
  poolSize : o.scriptSlots = none → c.interpreter.poolSize = c'.interpreter.poolSize
  initScript : o.scriptInit = none → c.interpreter.initScript = c'.interpreter.initScript

/-- What a setting stands over makes no difference. -/
theorem getD_congr {α : Type} {x : Option α} {a b : α} (h : x = none → a = b) :
    x.getD a = x.getD b := by
  cases x with
  | none => exact h rfl
  | some c => rfl

theorem or_congr {α : Type} {x a b : Option α} (h : x = none → a = b) : x.or a = x.or b := by
  cases x with
  | none => exact congrArg _ (h rfl)
  | some c => rfl

theorem AgreeBelow.override {o : Overrides} {c c' : WatchConfig} (h : AgreeBelow o c c') :
    c.override o = c'.override o := by
  simp [WatchConfig.override, getD_congr h.alerts, getD_congr h.searchAddr, getD_congr h.poolSize,
    or_congr h.webhookEndpoint, or_congr h.initScript, h.cycleTimeoutSecs, h.httpTimeoutSecs]

/-- **A configuration is its three layers put together.**  One is loaded if and only if its file
can be read and has the right types, what the file says is valid by itself, and what comes of all
layers is; and then it is that.  Of a file that is valid by itself nothing counts but what the
command line leaves to it.  A file that is not valid fails whatever the command line says. -/
theorem load_layers (o : Overrides) (files : FileReader Id) :
    (∀ c, (load files o).run = .ok c ↔ ∃ es, HasDocument files o es ∧ WellTyped es ∧
      (layered .none es).IsValid ∧ (layered o es).IsValid ∧ c = layered o es) ∧
    (∀ (files' : FileReader Id) (es es' : Toml.Entries), HasDocument files o es →
      HasDocument files' o es' → WellTyped es → WellTyped es' → (layered .none es).IsValid →
      (layered .none es').IsValid → AgreeBelow o (layered .none es) (layered .none es') →
      (load files o).run = (load files' o).run) ∧
    (∀ es fault, HasDocument files o es → WellTyped es →
      (layered .none es).fault? = some fault → (load files o).run = .error (.invalid fault)) := by
  refine ⟨fun c => load_eq_ok, ?_, ?_⟩
  · intro files' es es' hdocument hdocument' htyped htyped' hvalid hvalid' hagree
    have hover := hagree.override
    rw [← given_eq_layered, ← given_eq_layered, override_given, override_given] at hover
    rw [load_of_document hdocument htyped, load_of_document hdocument' htyped',
      bind_of_eq_ok (validate_eq_ok.mpr ⟨hvalid, rfl⟩),
      bind_of_eq_ok (validate_eq_ok.mpr ⟨hvalid', rfl⟩), hover]
  · intro es fault hdocument htyped hfault
    exact load_of_fault hdocument htyped hfault

/-- A command line with a configuration file and a search address. -/
def addressed : Overrides :=
  { Overrides.none with config := some "watch.toml", searchAddr := some "es:9200" }

/-- Files that all hold the same text. -/
def alike (text : String) : FileReader Id :=
  fun _ => .ok text

/-- The key and the value of a table with one entry, if the value is a text or a whole number. -/
def soleEntry? : Toml.Entries → Option (String × (String ⊕ Int))
  | [(key, .string s)] => some (key, .inl s)
  | [(key, .integer n)] => some (key, .inr n)
  | _ => none

theorem eq_of_soleEntry? {es : Toml.Entries} {key : String} {value : String ⊕ Int}
    (h : soleEntry? es = some (key, value)) : es = [(key, value.elim .string .integer)] := by
  unfold soleEntry? at h
  split at h
  · cases h
    rfl
  · cases h
    rfl
  · cases h

-- Tables hold floating point numbers and cannot be compared; their sole entries can.
theorem hasDocument_sole {text key : String} (value : String ⊕ Int)
    (h : (Toml.parse? text).bind soleEntry? = some (key, value)) :
    HasDocument (alike text) addressed [(key, value.elim .string .integer)] := by
  obtain ⟨es, hparse, hsole⟩ := Option.bind_eq_some_iff.mp h
  exact ⟨text, rfl, eq_of_soleEntry? hsole ▸ hparse⟩

theorem hasDocument_empty : HasDocument (alike "") addressed [] := by
  have hlength : (Toml.parse? "").map List.length = some 0 := by decide +kernel
  obtain ⟨es, hparse, hnil⟩ := Option.map_eq_some_iff.mp hlength
  exact ⟨"", rfl, List.length_eq_zero_iff.mp hnil ▸ hparse⟩

/-- Whether a file says something else about the address, or nothing, the command line has it; but
a timeout of zero has nothing over it. -/
theorem load_layers_addressed :
    (load (alike "search_addr = 'other:1'") addressed).run = (load (alike "") addressed).run ∧
      (load (alike "") addressed).run = .ok { default with searchAddr := "es:9200" } ∧
      (load (alike "http_timeout_secs = 0") addressed).run
        = .error (.invalid .httpTimeoutZero) := by
  have hother : HasDocument (alike "search_addr = 'other:1'") addressed
      [("search_addr", .string "other:1")] := hasDocument_sole (.inl "other:1") (by decide +kernel)
  have hzero : HasDocument (alike "http_timeout_secs = 0") addressed
      [("http_timeout_secs", .integer 0)] := hasDocument_sole (.inr 0) (by decide +kernel)
  have hvalid : (layered .none [("search_addr", .string "other:1")]).IsValid :=
    fault?_eq_none.mp (by decide +kernel)
  refine ⟨?_, ?_, ?_⟩
  · refine (load_layers addressed _).2.1 _ _ _ hother hasDocument_empty ?_ ?_ hvalid
      isValid_default ?_
    · simp [WellTyped, IsTyped, Item.text?]
    · simp [WellTyped]
    · exact ⟨fun _ => rfl, nofun, fun _ => rfl, rfl, rfl, fun _ => rfl, fun _ => rfl⟩
  · exact ((load_layers addressed _).1 _).mpr ⟨[], hasDocument_empty, by simp [WellTyped],
      isValid_default, fault?_eq_none.mp (by decide +kernel), by decide +kernel⟩
  · refine (load_layers addressed _).2.2 _ _ hzero ?_ (by decide +kernel)
    simp [WellTyped, IsTyped, Item.natural?]

/-- A file with an address that is not valid fails under a command line that has a valid one, and
the same file without it does not. -/
theorem load_shadowed : ∃ es, HasDocument (alike "search_addr = ''") addressed es ∧
      WellTyped es ∧ (layered addressed es).IsValid ∧
      AgreeBelow addressed (layered .none es) (layered .none []) ∧
      (load (alike "search_addr = ''") addressed).run = .error (.invalid .searchAddrBlank) ∧
      (load (alike "") addressed).run = .ok (layered addressed []) := by
  have hblank : HasDocument (alike "search_addr = ''") addressed [("search_addr", .string "")] :=
    hasDocument_sole (.inl "") (by decide +kernel)
  have htyped : WellTyped [("search_addr", .string "")] := by simp [WellTyped, IsTyped, Item.text?]
  refine ⟨[("search_addr", .string "")], hblank, htyped, fault?_eq_none.mp (by decide +kernel),
    ?_, ?_, ?_⟩
  · exact ⟨fun _ => rfl, nofun, fun _ => rfl, rfl, rfl, fun _ => rfl, fun _ => rfl⟩
  · exact load_of_fault hblank htyped (by decide +kernel)
  · exact load_eq_ok.mpr ⟨[], hasDocument_empty, by simp [WellTyped], isValid_default,
      fault?_eq_none.mp (by decide +kernel), rfl⟩

end WatchConfig

end Lookout
