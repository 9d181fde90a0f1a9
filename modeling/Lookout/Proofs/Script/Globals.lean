/-
The variables of a condition's context, from its first statement to its last.

A condition starts with its context in front of whatever its helpers define: the frame holds the
context's name, its start and a datum that stands for its result, and helpers of these names are
left out.  From there on a condition may do with the three names what it likes, but no step of
evaluation ever takes its datum away from a variable that has one.  So at the end `result` is still
bound to something, and that, read as plain data, is the result of the outcome, whether it is the
datum of the start, changed in its own cells or through another name for them, or another one.
-/
import Lookout.Proofs.Script.Crossing
import Lookout.Proofs.Script.Finish

namespace Lookout.Script

/-! ### Variables that stay assigned -/

/-- A variable of a frame holds a datum. -/
def Machine.Holds (m : Machine) (frame : Addr) (name : String) (d : Datum) : Prop :=
  (m.bindings frame).lookup name = some (some d)

variable {m m' : Machine} {frame : Addr} {name : String} {d : Datum}

theorem Machine.Holds.lookup (h : m.Holds frame name d) :
    (m.bindings frame).lookup name = some (some d) := h

/-- Only a cell that is a frame has a variable that holds something. -/
theorem holds_iff : m.Holds frame name d ↔
    ∃ c, m.cells[frame]? = some c ∧ c.variables.lookup name = some (some d) := by
  unfold Machine.Holds Machine.bindings
  cases m.cells[frame]? with
  | none => exact iff_of_false (fun h => by cases h) fun ⟨_, h, _⟩ => by cases h
  | some c =>
    cases c with
    | frame parent bindings => exact ⟨fun h => ⟨_, rfl, h⟩, fun ⟨_, h, hd⟩ => by cases h; exact hd⟩
    | _ => exact iff_of_false (fun h => by cases h) fun ⟨_, h, hd⟩ => by cases h; cases hd

/-- What a variable of its frame holds is what a script finds under its name. -/
theorem named_of_holds (h : m.Holds frame name d) : m.named frame name = .ok d := by
  obtain ⟨c, cell, bound⟩ := holds_iff.mp h
  cases c with
  | frame parent bindings =>
    have bound : bindings.lookup name = some (some d) := bound
    unfold Machine.named Machine.binding?
    rw [cell]
    dsimp only
    rw [bound]
  | _ => cases bound

/-- Each variable that holds something in one state holds something in another. -/
def StaysAssigned (m m' : Machine) : Prop :=
  ∀ frame name d, m.Holds frame name d → ∃ d', m'.Holds frame name d'

namespace StaysAssigned

theorem refl (m : Machine) : StaysAssigned m m :=
  fun _ _ d h => ⟨d, h⟩

theorem trans {m₁ m₂ m₃ : Machine} (h : StaysAssigned m₁ m₂) (h' : StaysAssigned m₂ m₃) :
    StaysAssigned m₁ m₃ := by
  intro frame name d held
  obtain ⟨d', held'⟩ := h frame name d held
  exact h' frame name d' held'

end StaysAssigned

theorem staysAssigned_alloc (c : Cell) (m : Machine) :
    StaysAssigned m ((Eval.alloc c).stateAfter m) := by
  intro frame name d h
  obtain ⟨old, cell, bound⟩ := holds_iff.mp h
  exact ⟨d, holds_iff.mpr ⟨old, getElem?_push_of_some c cell, bound⟩⟩

theorem staysAssigned_change (a : Addr) (f : Cell → Cell) (hf : KeepsAssigned f) (m : Machine) :
    StaysAssigned m ((Eval.change a f).stateAfter m) := by
  rw [stateAfter_change]
  split
  · exact .refl m
  intro frame name d h
  obtain ⟨old, cell, bound⟩ := holds_iff.mp h
  by_cases here : a = frame
  · obtain ⟨d', bound'⟩ := hf old name d bound
    refine ⟨d', holds_iff.mpr ⟨f old, ?_, bound'⟩⟩
    rw [Array.getElem?_modify, if_pos here, cell]
    rfl
  · refine ⟨d, holds_iff.mpr ⟨old, ?_, bound⟩⟩
    rw [Array.getElem?_modify, if_neg here, cell]

theorem staysAssigned_beginStatement (m : Machine) :
    StaysAssigned m (Eval.beginStatement.stateAfter m) := by
  rw [stateAfter_beginStatement]
  split
  · exact .refl m
  · exact .refl m

/-- **A variable that is assigned stays assigned**, whatever a script does and however it ends. -/
theorem Built.staysAssigned {α : Type} {e : Eval α} (he : Built e) :
    ∀ m : Machine, StaysAssigned m (e.stateAfter m) :=
  he.relates .refl .trans staysAssigned_alloc staysAssigned_change staysAssigned_beginStatement
    fun m => .refl m

/-! ### The start of a condition -/

/-- Where the statements of a condition stand. -/
def topScope (c : AlertContext) (frame : Addr) : Scope :=
  ⟨Eval.callDatum Eval.callDepth, c.name, frame⟩

/-- The state in which the first statement of a condition begins: the variables of its frame hold
what is in its context, and the cells of the interpreter are as they were. -/
structure Interpreter.Opens (i : Interpreter) (c : AlertContext) (frame : Addr) (m : Machine) :
    Prop where
  name : m.Holds frame "name" (.string c.name)
  /-- The start of the cycle, or the greatest signed word if it is beyond that. -/
  startedTs : m.Holds frame "started_ts" (.int (min (c.startedTs : Int) 0x7FFFFFFFFFFFFFFF))
  /-- The result, in cells of its own. -/
  result : ∃ d, m.Holds frame "result" d ∧ Written m.cells i.cells.size frame c.result d
  begun : m.begun = 0
  cells : ∀ a < i.cells.size, m.cells[a]? = i.cells[a]?

theorem lookup_map_some (name : String) : ∀ given : List (String × Datum),
    (given.map fun (n, d) => (n, some d)).lookup name = (given.lookup name).map some := by
  intro given
  induction given with
  | nil => rfl
  | cons g rest ih =>
      obtain ⟨n, d⟩ := g
      rw [List.map_cons, List.lookup_cons, List.lookup_cons, ih]
      cases name == n with
      | true => rfl
      | false => rfl

/-- What a script is given is there from the start. -/
theorem lookup_withBound {given : List (String × Datum)} (h : given.lookup name = some d)
    (statements : List Stmt) : (withBound given statements).lookup name = some (some d) := by
  rw [withBound, List.lookup_append, lookup_map_some, h]
  rfl

/-- **A condition starts with its own context**, whatever its helpers define: its run is that of its
statements from a state that opens the context. -/
theorem Interpreter.exists_opens (i : Interpreter) (c : AlertContext) (statements : List Stmt)
    (cancelAt : Option Nat) : ∃ frame m, i.Opens c frame m ∧
      (i.condition c statements).run ⟨i.cells, i.cells.size, cancelAt, 0⟩
        = (Eval.script (topScope c frame) statements >>= fun last => pure (frame, last)).run m := by
  obtain ⟨d, cells, made, grown, written⟩ :=
    run_ofValue c.result ⟨i.cells, i.cells.size, cancelAt, 0⟩
  let bindings := withBound (i.given c d) statements
  let m : Machine := ⟨cells.push (.frame none bindings), i.cells.size, cancelAt, 0⟩
  have cell : m.cells[cells.size]? = some (.frame none bindings) := Array.getElem?_push_size
  -- what is given begins with the variables of the context, and helpers of their names are left out
  have holds : ∀ name d', (i.given c d).lookup name = some d' → m.Holds cells.size name d' :=
    fun name d' h => holds_iff.mpr ⟨_, cell, lookup_withBound h statements⟩
  have same : ∀ a < cells.size, m.cells[a]? = cells[a]? := (Grown.push cells _).same
  refine ⟨cells.size, m, ⟨holds _ _ rfl, holds _ _ rfl, ⟨d, holds _ _ rfl, ?_⟩, rfl, ?_⟩, ?_⟩
  · exact written.mono (Nat.le_refl _) (Nat.le_refl _) fun a _ ha => same a ha
  · exact fun a ha => (same a (Nat.lt_of_lt_of_le ha grown.size)).trans (grown.same a ha)
  · unfold condition runTop
    rw [EStateM.run_bind, made]
    rfl

/-! ### The end of a condition -/

/-- A condition left a context behind: it is the one it started with but for the result, and that is
what `result` holds at the end of its statements, read as plain data. -/
structure Interpreter.Leaves (i : Interpreter) (source : String) (c c' : AlertContext) : Prop where
  name : c'.name = c.name
  startedTs : c'.startedTs = c.startedTs
  result : ∃ statements frame m last m', parse source = .ok statements ∧ i.Opens c frame m ∧
    (Eval.script (topScope c frame) statements).run m = .ok last m' ∧
    ∃ d, m'.Holds frame "result" d ∧ m'.toValue d = .ok c'.result

/-- **The result of an outcome is what `result` holds at the end.**  It held something at the start,
so it still does. -/
theorem Interpreter.leaves_of_run {i : Interpreter} {c : AlertContext} {source : String}
    {o : Outcome} (h : (i.run none source c).1 = .ok o) :
    i.Leaves source c (c.withResult o.result) := by
  refine ⟨rfl, rfl, ?_⟩
  obtain ⟨frame', last', m', ⟨statements, parsed, -, run⟩, -, left⟩ := finishes_of_run h
  obtain ⟨frame, m, opens, same⟩ := i.exists_opens c statements none
  rw [same, EStateM.run_bind] at run
  have sound : Built (Eval.script (topScope c frame) statements) :=
    Built.script (fun d args => Built.callDatum _ d args) statements
  have stays := sound.staysAssigned m
  unfold Eval.stateAfter at stays
  cases ran : (Eval.script (topScope c frame) statements).run m with
  | error halt m'' =>
    rw [ran] at run
    cases run
  | ok last m'' =>
    rw [ran] at run stays
    -- `result` held something at the start, so there is something to read at the end
    obtain ⟨d, held, -⟩ := opens.result
    obtain ⟨d', held'⟩ := stays frame "result" d held
    cases run
    refine ⟨statements, frame', m, last', m', parsed, opens, ran, d', held', ?_⟩
    unfold Machine.resultLeft at left
    rw [held'.lookup] at left
    exact left

end Lookout.Script
