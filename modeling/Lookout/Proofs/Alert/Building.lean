/-
What an alert has to be for it to be built.

The parts of an alert are looked at in a fixed order, and the building stops at the first of them
that is not as it has to be.  `Lacks` says what can be wrong with the parts, each thing by itself,
and `place` says in which order they are looked at; what is told is the one that comes first.  The
name of what is built is trimmed, and to trim it again changes nothing, so it can be built again.

How long a name is depends on what is counted.  Both `Buildable` and `Lacks` are stated for any
measure of its length: the building takes the bytes of its text, while it tells of characters.  The
two measures agree on names of ASCII characters, and of other names fewer are accepted than are said
to be.
-/
import Lookout.Alert.Load
import Lookout.Proofs.Text.Trimming

namespace Lookout

/-! ### Characters and bytes -/

namespace Text

/-- Every character takes at least one byte. -/
theorem length_le_utf8ByteSize (s : String) : s.length ≤ s.utf8ByteSize := by
  rw [← String.ofList_toList (s := s)]
  induction s.toList with
  | nil => exact Nat.le_refl 0
  | cons c cs ih =>
      rw [String.ofList_cons, String.length_append, String.utf8ByteSize_append,
        String.length_singleton, String.utf8ByteSize_singleton]
      exact Nat.add_le_add c.utf8Size_pos ih

/-- An ASCII character takes one byte. -/
theorem utf8ByteSize_of_ascii {cs : List Char} (h : ∀ c ∈ cs, c.toNat < 128) :
    (String.ofList cs).utf8ByteSize = cs.length := by
  induction cs with
  | nil => rfl
  | cons c cs ih =>
      obtain ⟨hc, hcs⟩ := List.forall_mem_cons.mp h
      have hone : c.utf8Size = 1 := Char.utf8Size_eq_one_iff.mpr (Nat.le_of_lt_succ hc)
      rw [String.ofList_cons, String.utf8ByteSize_append, String.utf8ByteSize_singleton, ih hcs,
        hone, List.length_cons, Nat.add_comm]

end Text

/-! ### What can be wrong -/

/-- The place of what is told in the order in which the parts of an alert are looked at. -/
def BuildError.place : BuildError → Nat
  | nameEmpty => 0
  | nameTooLong => 1
  | invalid _ .intervalZero => 2
  | invalid _ .indexBlank => 3
  | invalid _ .conditionBlank => 4
  | invalid _ (.conditionUnreadable _) => 5

namespace AlertDefinition

/-- The name that an alert is built with. -/
def trimmedName (a : AlertDefinition) : String :=
  Text.stripBlanks a.name

/-- The parts of an alert are as they have to be, where `size` is the length of a name. -/
structure Buildable (size : String → Nat) (a : AlertDefinition) : Prop where
  named : a.trimmedName ≠ ""
  short : size a.trimmedName ≤ maxNameLength
  interval : 0 < a.intervalSecs
  index : Text.isAllBlank a.search.index = false
  condition : Text.isAllBlank a.condition = false
  readable : ∃ statements, Script.parse a.condition = .ok statements

/-- A part of an alert is not as it has to be, and this is what is told of it. -/
inductive Lacks (size : String → Nat) (a : AlertDefinition) : BuildError → Prop where
  | name (h : a.trimmedName = "") : Lacks size a .nameEmpty
  | shortName (h : maxNameLength < size a.trimmedName) : Lacks size a .nameTooLong
  | interval (h : a.intervalSecs = 0) : Lacks size a (.invalid a.trimmedName .intervalZero)
  | index (h : Text.isAllBlank a.search.index = true) :
      Lacks size a (.invalid a.trimmedName .indexBlank)
  | condition (h : Text.isAllBlank a.condition = true) :
      Lacks size a (.invalid a.trimmedName .conditionBlank)
  | statements {f : Script.SyntaxFault} (h : Script.parse a.condition = .error f) :
      Lacks size a (.invalid a.trimmedName (.conditionUnreadable f))

/-- What is told of the first part of an alert that is not as it has to be. -/
structure FirstLack (size : String → Nat) (a : AlertDefinition) (e : BuildError) : Prop where
  lacks : a.Lacks size e
  first : ∀ d, a.Lacks size d → e.place ≤ d.place

variable {a b : AlertDefinition} {size : String → Nat} {e : BuildError}

/-- Nothing is wrong with parts that are as they have to be. -/
theorem Buildable.not_lacks (h : a.Buildable size) (e : BuildError) : ¬ a.Lacks size e := by
  intro hlacks
  cases hlacks with
  | name hname => exact h.named hname
  | shortName hlong => exact Nat.not_lt.mpr h.short hlong
  | interval hzero => exact Nat.ne_of_gt h.interval hzero
  | index hblank => exact Bool.false_ne_true (h.index.symm.trans hblank)
  | condition hblank => exact Bool.false_ne_true (h.condition.symm.trans hblank)
  | statements hfault =>
      obtain ⟨statements, hparse⟩ := h.readable
      rw [hparse] at hfault
      cases hfault

/-- Different things that are wrong are looked at in different places. -/
theorem Lacks.eq_of_place {d : BuildError} (hd : a.Lacks size d) (he : a.Lacks size e)
    (h : d.place = e.place) : d = e := by
  cases hd with
  | statements hparse =>
      cases he with
      | statements hparse' =>
          rw [hparse] at hparse'
          cases hparse'
          rfl
      | _ => cases h
  | _ => cases he <;> first | rfl | cases h

theorem FirstLack.unique {d : BuildError} (hd : a.FirstLack size d) (he : a.FirstLack size e) :
    d = e :=
  hd.lacks.eq_of_place he.lacks
    (Nat.le_antisymm (hd.first e he.lacks) (he.first d hd.lacks))

/-! ### The building -/

/-- The parts behind the name are looked at in their order. -/
theorem fault?_cases (size : String → Nat) (a : AlertDefinition) :
    (a.fault? = none ∧ 0 < a.intervalSecs ∧ Text.isAllBlank a.search.index = false ∧
      Text.isAllBlank a.condition = false ∧
        ∃ statements, Script.parse a.condition = .ok statements) ∨
    ∃ f, a.fault? = some f ∧ a.Lacks size (.invalid a.trimmedName f) ∧
      ∀ name g, a.Lacks size (.invalid name g) →
        (BuildError.invalid a.trimmedName f).place ≤ (BuildError.invalid name g).place := by
  unfold fault?
  split
  · case isTrue hinterval =>
    refine Or.inr ⟨_, rfl, .interval hinterval, fun name g hg => ?_⟩
    cases hg <;> simp [BuildError.place]
  · case isFalse hinterval =>
    split
    · case isTrue hindex =>
      refine Or.inr ⟨_, rfl, .index hindex, fun name g hg => ?_⟩
      cases hg with
      | interval h => exact absurd h hinterval
      | _ => simp [BuildError.place]
    · case isFalse hindex =>
      split
      · case isTrue hcondition =>
        refine Or.inr ⟨_, rfl, .condition hcondition, fun name g hg => ?_⟩
        cases hg with
        | interval h => exact absurd h hinterval
        | index h => exact absurd h hindex
        | _ => simp [BuildError.place]
      · case isFalse hcondition =>
        split
        · case _ statements hparse =>
          exact Or.inl ⟨rfl, Nat.pos_of_ne_zero hinterval, eq_false_of_ne_true hindex,
            eq_false_of_ne_true hcondition, statements, hparse⟩
        · case _ f hparse =>
          refine Or.inr ⟨_, rfl, .statements hparse, fun name g hg => ?_⟩
          cases hg with
          | interval h => exact absurd h hinterval
          | index h => exact absurd h hindex
          | condition h => exact absurd h hcondition
          | statements => exact Nat.le_refl _

/-- The building looks at the name, and then at the other parts in their order. -/
theorem build_cases (a : AlertDefinition) :
    a.Buildable String.utf8ByteSize ∧ a.build = .ok { a with name := a.trimmedName } ∨
      ∃ e, a.FirstLack String.utf8ByteSize e ∧ a.build = .error e := by
  unfold build
  dsimp only
  split
  · case isTrue hempty =>
    exact Or.inr ⟨_, ⟨.name (String.isEmpty_iff.mp hempty), fun d _ => Nat.zero_le _⟩, rfl⟩
  · case isFalse hempty =>
    have hname : a.trimmedName ≠ "" := mt String.isEmpty_iff.mpr hempty
    split
    · case isTrue hlong =>
      refine Or.inr ⟨_, ⟨.shortName hlong, fun d hd => ?_⟩, rfl⟩
      cases hd with
      | name h => exact absurd h hname
      | _ => simp [BuildError.place]
    · case isFalse hlong =>
      rcases a.fault?_cases String.utf8ByteSize with
        ⟨hnone, hinterval, hindex, hcondition, hreadable⟩ | ⟨f, hsome, hlacks, hfirst⟩
      · rw [hnone]
        exact Or.inl ⟨⟨hname, Nat.le_of_not_lt hlong, hinterval, hindex, hcondition, hreadable⟩,
          rfl⟩
      · rw [hsome]
        refine Or.inr ⟨_, ⟨hlacks, fun d hd => ?_⟩, rfl⟩
        cases d with
        | nameEmpty => cases hd with | name h => exact absurd h hname
        | nameTooLong => cases hd with | shortName h => exact absurd h hlong
        | invalid name g => exact hfirst name g hd

theorem build_eq_ok : a.build = .ok b ↔
    a.Buildable String.utf8ByteSize ∧ b = { a with name := a.trimmedName } := by
  rcases a.build_cases with ⟨hbuildable, hbuild⟩ | ⟨e, hfirst, hbuild⟩
  · rw [hbuild]
    simp [hbuildable, eq_comm]
  · rw [hbuild]
    exact iff_of_false (fun h => by cases h) fun h => h.1.not_lacks e hfirst.lacks

theorem build_eq_error : a.build = .error e ↔ a.FirstLack String.utf8ByteSize e := by
  rcases a.build_cases with ⟨hbuildable, hbuild⟩ | ⟨d, hfirst, hbuild⟩
  · rw [hbuild]
    exact iff_of_false (fun h => by cases h) fun h => hbuildable.not_lacks e h.lacks
  · rw [hbuild, Except.error.injEq]
    exact ⟨fun h => h ▸ hfirst, fun h => hfirst.unique h⟩

theorem build_of_long (hname : a.trimmedName ≠ "")
    (hlong : maxNameLength < a.trimmedName.utf8ByteSize) : a.build = .error .nameTooLong := by
  refine build_eq_error.mpr ⟨.shortName hlong, fun d hd => ?_⟩
  cases hd with
  | name h => exact absurd h hname
  | _ => simp [BuildError.place]

theorem trimmedName_trimmed (a : AlertDefinition) :
    trimmedName { a with name := a.trimmedName } = a.trimmedName :=
  Text.stripBlanks_stripBlanks a.name

/-- What is built can be built again, and comes to itself. -/
theorem build_of_build (h : a.build = .ok b) : b.build = .ok b := by
  obtain ⟨hbuildable, rfl⟩ := build_eq_ok.mp h
  have hname := a.trimmedName_trimmed
  refine build_eq_ok.mpr ⟨⟨?_, ?_, hbuildable.interval, hbuildable.index, hbuildable.condition,
    hbuildable.readable⟩, ?_⟩
  · rw [hname]
    exact hbuildable.named
  · rw [hname]
    exact hbuildable.short
  · rw [hname]

/-! ### Two measures of a name -/

/-- Where bytes are counted, what is accepted has no more characters than it may have. -/
theorem buildable_bytes_iff : a.Buildable String.utf8ByteSize ↔
    a.Buildable String.length ∧ a.trimmedName.utf8ByteSize ≤ maxNameLength := by
  constructor
  · intro h
    exact ⟨⟨h.named, Nat.le_trans (Text.length_le_utf8ByteSize _) h.short, h.interval, h.index,
      h.condition, h.readable⟩, h.short⟩
  · rintro ⟨h, hshort⟩
    exact ⟨h.named, hshort, h.interval, h.index, h.condition, h.readable⟩

section Measures

variable {size' : String → Nat} (hsize : size a.trimmedName = size' a.trimmedName)
include hsize

theorem buildable_congr : a.Buildable size ↔ a.Buildable size' := by
  constructor
  · exact fun h => ⟨h.named, hsize ▸ h.short, h.interval, h.index, h.condition, h.readable⟩
  · exact fun h => ⟨h.named, hsize ▸ h.short, h.interval, h.index, h.condition, h.readable⟩

/-- What is wrong with an alert has nothing to do with its actions. -/
theorem Lacks.congr (h : a.Lacks size e) (actions : List Action) :
    Lacks size' { a with actions := actions } e := by
  cases h with
  | name h => exact .name h
  | shortName h => exact .shortName (hsize ▸ h)
  | interval h => exact .interval h
  | index h => exact .index h
  | condition h => exact .condition h
  | statements h => exact .statements h

theorem firstLack_congr (actions : List Action) :
    a.FirstLack size e ↔ FirstLack size' { a with actions := actions } e := by
  have hsame : size' (trimmedName { a with actions := actions })
      = size (trimmedName { a with actions := actions }) := hsize.symm
  constructor
  · exact fun h => ⟨h.lacks.congr hsize actions, fun d hd => h.first d (hd.congr hsame a.actions)⟩
  · exact fun h => ⟨h.lacks.congr hsame a.actions, fun d hd => h.first d (hd.congr hsize actions)⟩

end Measures

/-- **What the building of an alert comes to.**  An alert is built if and only if its parts are as
they have to be, and what is built has all of them, with the name trimmed, and can be built again;
otherwise the first part that is not as it has to be is told.  The length of a name is that in
bytes.  So of the names that are not too long in characters those are turned down that are too long
in bytes, and on names of ASCII characters the building does as it tells. -/
theorem build_outcome (a : AlertDefinition) :
    (∀ b, a.build = .ok b ↔
      a.Buildable String.utf8ByteSize ∧ b = { a with name := a.trimmedName }) ∧
    (∀ b, a.build = .ok b → b.build = .ok b) ∧
    (∀ e, a.build = .error e ↔ a.FirstLack String.utf8ByteSize e) ∧
    (∀ e, a.build = .error e → (LoadError.invalid e).kind = .decode) ∧
    ((∃ b, a.build = .ok b) ↔
      a.Buildable String.length ∧ a.trimmedName.utf8ByteSize ≤ maxNameLength) ∧
    (a.Buildable String.length → maxNameLength < a.trimmedName.utf8ByteSize →
      a.build = .error .nameTooLong) ∧
    ((∀ c ∈ a.trimmedName.toList, c.toNat < 128) →
      (∀ b, a.build = .ok b ↔ a.Buildable String.length ∧ b = { a with name := a.trimmedName }) ∧
      ∀ e, a.build = .error e ↔ a.FirstLack String.length e) := by
  refine ⟨fun b => build_eq_ok, fun b => build_of_build, fun e => build_eq_error, fun e _ => rfl,
    ?_, fun hbuildable hlong => ?_, fun hascii => ?_⟩
  · rw [← buildable_bytes_iff]
    exact ⟨fun ⟨b, hb⟩ => (build_eq_ok.mp hb).1, fun h => ⟨_, build_eq_ok.mpr ⟨h, rfl⟩⟩⟩
  · exact build_of_long hbuildable.named hlong
  · have hsize : a.trimmedName.utf8ByteSize = a.trimmedName.length := by
      rw [← String.length_toList, ← Text.utf8ByteSize_of_ascii hascii, String.ofList_toList]
    exact ⟨fun b => by rw [build_eq_ok, buildable_congr hsize],
      fun e => build_eq_error.trans (firstLack_congr hsize a.actions)⟩

/-- An alert of which only the name and the interval are of interest. -/
def named (name : String) (intervalSecs : Nat) : AlertDefinition :=
  ⟨name, intervalSecs, ⟨"logs", .map []⟩, "True", [.log "up", .slack "up"]⟩

theorem buildable_named {name : String} (hnamed : Text.stripBlanks name ≠ "")
    (hshort : size (Text.stripBlanks name) ≤ maxNameLength) {intervalSecs : Nat}
    (hinterval : 0 < intervalSecs) : (named name intervalSecs).Buildable size where
  named := hnamed
  short := hshort
  interval := hinterval
  index := (by decide +kernel : Text.isAllBlank "logs" = false)
  condition := (by decide +kernel : Text.isAllBlank "True" = false)
  readable := by
    have hparse : (Script.parse "True").isOk = true := by decide +kernel
    show ∃ statements, Script.parse "True" = .ok statements
    cases h : Script.parse "True" with
    | ok statements => exact ⟨statements, rfl⟩
    | error f =>
        rw [h] at hparse
        cases hparse

/-- A name with white space around it that is not ASCII, and one that is, without an interval. -/
theorem build_outcome_padded :
    (∃ b, (named "\u2003disk é\n" 60).build = .ok b ∧ b.name = "disk é" ∧
      b.actions = [.log "up", .slack "up"] ∧ b.build = .ok b) ∧
    (named " disk " 0).build = .error (.invalid "disk" .intervalZero) := by
  constructor
  · obtain ⟨hok, hagain, -⟩ := build_outcome (named "\u2003disk é\n" 60)
    have hbuild := (hok _).mpr ⟨buildable_named (by decide +kernel) (by decide +kernel)
      (by decide), rfl⟩
    exact ⟨_, hbuild, by decide +kernel, rfl, hagain _ hbuild⟩
  · obtain ⟨-, -, -, -, -, -, hascii⟩ := build_outcome (named " disk " 0)
    have hname : trimmedName (named " disk " 0) = "disk" := by decide +kernel
    refine ((hascii (by simp [hname])).2 _).mpr ⟨hname ▸ .interval rfl, fun d hd => ?_⟩
    cases hd with
    | name h => exact absurd (hname.symm.trans h) (by decide)
    | shortName h => exact absurd h (by rw [hname]; decide)
    | _ => simp [BuildError.place]

/-- A name of so many characters, each of which takes two bytes. -/
def accented (k : Nat) : String :=
  String.ofList (List.replicate k 'é')

theorem stripBlanks_accented (k : Nat) : Text.stripBlanks (accented k) = accented k := by
  have hbare : Text.Bare isBlank (List.replicate k 'é') := by
    refine Text.bare_of_forall fun c hc => ?_
    rw [List.eq_of_mem_replicate hc]
    decide
  rw [Text.stripBlanks, accented, String.toList_ofList, hbare.trim_eq_self]

theorem length_accented (k : Nat) : (accented k).length = k := by
  rw [accented, String.length_ofList, List.length_replicate]

theorem utf8ByteSize_accented (k : Nat) : (accented k).utf8ByteSize = 2 * k := by
  have htwo : Char.utf8Size 'é' = 2 := by decide
  unfold accented
  induction k with
  | zero => rfl
  | succ k ih =>
      rw [List.replicate_succ, String.ofList_cons, String.utf8ByteSize_append,
        String.utf8ByteSize_singleton, ih, htwo]
      omega

/-- **A name of few characters can be one of many bytes.**  An alert whose name has no more
characters than it may have, and whose other parts are as they have to be, is not built. -/
theorem build_counts_bytes : (named (accented 129) 60).trimmedName.length = 129 ∧
    (named (accented 129) 60).Buildable String.length ∧
    (named (accented 129) 60).build = .error .nameTooLong := by
  have hname := stripBlanks_accented 129
  have hlength := length_accented 129
  have htrimmed : (named (accented 129) 60).trimmedName = accented 129 := hname
  have hnamed : accented 129 ≠ "" := by
    intro hempty
    rw [hempty] at hlength
    cases hlength
  refine ⟨by rw [htrimmed, hlength], buildable_named ?_ ?_ (by decide), build_of_long ?_ ?_⟩
  · rw [hname]
    exact hnamed
  · rw [hname, hlength]
    decide
  · rw [htrimmed]
    exact hnamed
  · rw [htrimmed, utf8ByteSize_accented]
    decide

end AlertDefinition

end Lookout
