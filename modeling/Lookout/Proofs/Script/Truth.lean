/-
What is true for a script is true for its host.

A host asks whether a result is true, and so does the condition that consists of `result` alone.
The host looks at the float of a number.  A script has a datum for the value, in which an integer
that a signed word holds stays an integer, and any other one is the float that the host looks at.
So the two agree on a number since an integer is zero exactly if its float is; and they agree on
the rest since what is written into cells has items or entries just if the value has any.
-/
import Lookout.Proofs.Script.Globals
import Lookout.Proofs.Value.Zero

namespace Lookout.Script

variable {m : Machine}

/-! ### The datum of a value -/

/-- A number is true for a script as it is for its host. -/
theorem truth_ofNumber (m : Machine) (n : Number) : m.truth (Num.ofNumber n) = !n.isZero := by
  cases n with
  | float x h => rfl
  | int n h =>
      unfold Num.ofNumber
      dsimp only
      by_cases hword : n < 0x8000000000000000
      · rw [if_pos hword, Number.isZero_int h]
        rfl
      · -- the script has the very float that the host looks at
        rw [if_neg hword]
        rfl

theorem isEmpty_of_writtenItems {cells : Array Cell} {low high : Addr} {vs : List Value}
    {ds : List Datum} (h : WrittenItems cells low high vs ds) : ds.isEmpty = vs.isEmpty := by
  cases h <;> rfl

theorem isEmpty_of_writtenEntries {cells : Array Cell} {low high : Addr}
    {entries : List (String × Value)} {data : List (Datum × Datum)}
    (h : WrittenEntries cells low high entries data) : data.isEmpty = entries.isEmpty := by
  cases h <;> rfl

/-- **A datum that stands for a value is true if and only if the value is.** -/
theorem truth_of_written {low high : Addr} {v : Value} {d : Datum}
    (h : Written m.cells low high v d) : m.truth d = v.isTruthy := by
  cases h with
  | null => rfl
  | bool b => rfl
  | number n => exact truth_ofNumber m n
  | string s => rfl
  | @list _ a items data hlow hhigh hcell hitems =>
      have hread : m.items a = data.toArray := by
        unfold Machine.items
        rw [hcell]
      show (!(m.items a).isEmpty) = !items.isEmpty
      rw [hread, List.isEmpty_toArray, isEmpty_of_writtenItems hitems]
  | @map _ a entries data hlow hhigh hcell hentries =>
      have hread : m.entries a = data := by
        unfold Machine.entries
        rw [hcell]
      show (!(m.entries a).isEmpty) = !entries.isEmpty
      rw [hread, isEmpty_of_writtenEntries hentries]

/-! ### The condition that is the result -/

theorem parse_result : parse "result" = .ok [.expr (.name "result")] := by cbv

theorem unboundName?_result (i : Interpreter) (c : AlertContext) :
    unboundName? (i.given c .none) [.expr (.name "result")] = none := by
  simp [unboundName?, unknownStmt?, Stmt.unknown?, Expr.unknown?, Interpreter.given]

/-- A statement begins, and only the clock shows it, unless the run was given up on. -/
theorem run_beginStatement (m : Machine) :
    Eval.beginStatement.run m = .ok () { m with begun := m.begun + 1 } ∨
      Eval.beginStatement.run m = .error .cancelled m := by
  unfold Eval.beginStatement
  rw [EStateM.run_bind]
  cases hgiven : m.isCancelled with
  | false =>
      refine .inl ?_
      simp only [EStateM.run_get, hgiven]
      rfl
  | true =>
      refine .inr ?_
      simp only [EStateM.run_get, hgiven]
      rfl

/-- A script that is one name comes to what its frame holds under it, unless it was given up on. -/
theorem run_script_name {s : Scope} {name : String} {d : Datum} (held : m.Holds s.frame name d) :
    (Eval.script s [.expr (.name name)]).run m = .ok (some d) { m with begun := m.begun + 1 } ∨
      (Eval.script s [.expr (.name name)]).run m = .error .cancelled m := by
  have hname : (Eval.nameIn s name).run { m with begun := m.begun + 1 }
      = .ok d { m with begun := m.begun + 1 } := by
    have hnamed : Machine.named { m with begun := m.begun + 1 } s.frame name = .ok d :=
      named_of_holds held
    show (Eval.ofExcept (Machine.named { m with begun := m.begun + 1 } s.frame name)).run _ = _
    rw [hnamed]
    rfl
  unfold Eval.script Eval.expr
  rw [EStateM.run_bind]
  rcases run_beginStatement m with hbegin | hbegin
  · refine .inl ?_
    rw [hbegin]
    dsimp only
    rw [EStateM.run_bind, hname]
    rfl
  · refine .inr ?_
    rw [hbegin]

/-- The condition `result` comes to its end, in every interpreter, and its datum stands for the
result of its context. -/
theorem Interpreter.finishes_result (i : Interpreter) (c : AlertContext) : ∃ frame d m,
    i.Finishes "result" c frame (some d) m ∧ m.Holds frame "result" d ∧
      Written m.cells i.cells.size frame c.result d := by
  let statements : List Stmt := [.expr (.name "result")]
  obtain ⟨frame, m, opens, hrun⟩ := i.exists_opens c statements none
  obtain ⟨d, held, written⟩ := opens.result
  rw [EStateM.run_bind] at hrun
  rcases run_script_name (s := topScope c frame) held with hscript | hscript
  · rw [hscript] at hrun
    exact ⟨frame, d, _, ⟨statements, parse_result, unboundName?_result i c, hrun⟩, held, written⟩
  · -- nothing is given up on without a limit
    rw [hscript] at hrun
    exact absurd hrun ((Built.condition i c statements).not_cancelled _ _ rfl)

/-- **Truth for the host is truth for scripts.**  In every interpreter, whatever helper script it
started with, the condition `result` comes to an outcome, and its verdict is the truth of the
result; and in every state a value goes into a script as a datum with the truth of the value. -/
theorem truth_agrees :
    (∀ (i : Interpreter) (c : AlertContext),
      ∃ left, (i.run none "result" c).1 = .ok ⟨c.result.isTruthy, left⟩) ∧
    ∀ (v : Value) (m : Machine), ∃ d m',
      (Eval.ofValue Num.ofNumber v).run m = .ok d m' ∧ m'.truth d = v.isTruthy := by
  constructor
  · intro i c
    obtain ⟨frame, d, m, hfinishes, held, written⟩ := i.finishes_result c
    have hplain : m.plain d = .ok (document c.result) := by
      obtain ⟨cell, hcell, -⟩ := holds_iff.mp held
      have hframe : frame < m.cells.size := (Array.getElem?_eq_some_iff.mp hcell).1
      exact plain_of_written c.result written
        (Nat.le_trans (Nat.le_of_lt hframe) (Nat.le_add_right _ 2)) fun b hb => by cases hb
    have hleft : m.resultLeft frame = .ok (document c.result).toValue := by
      unfold Machine.resultLeft
      rw [held.lookup]
      exact congrArg (Except.map JsonDocument.toValue) hplain
    have htruth : m.decided (some d) = c.result.isTruthy := truth_of_written written
    refine ⟨(document c.result).toValue, ?_⟩
    rw [hfinishes.run_eq, Interpreter.readOutcome_eq, hleft, htruth]
    rfl
  · intro v m
    obtain ⟨d, cells, hrun, -, written⟩ := run_ofValue v m
    exact ⟨d, _, hrun, truth_of_written written⟩

end Lookout.Script
