/-
How a condition comes to an outcome.

A condition that is evaluated to its end leaves a state, in which two things are looked at: whether
the datum of the last statement is true, and what the name `result` stands for.  Only if the latter
is plain data is there an outcome; otherwise the condition failed, true or not.
-/
import Lookout.Proofs.Script.Limit

namespace Lookout.Script

/-- The value that a script left in `result`; null if it left nothing there. -/
def Machine.resultLeft (m : Machine) (frame : Addr) : Except NotPlain Value :=
  match (m.bindings frame).lookup "result" with
  | some (some d) => m.toValue d
  | _ => .ok .null

/-- Whether the datum of a last statement is true. -/
def Machine.decided (m : Machine) (last : Option Datum) : Bool :=
  (last.map m.truth).getD false

namespace Interpreter

/-- The text is a condition, and its evaluation without a limit comes to the last statement. -/
def Finishes (i : Interpreter) (source : String) (context : AlertContext) (frame : Addr)
    (last : Option Datum) (m : Machine) : Prop :=
  ∃ statements, parse source = .ok statements ∧
    unboundName? (i.given context .none) statements = none ∧
    (i.condition context statements).run ⟨i.cells, i.cells.size, none, 0⟩ = .ok (frame, last) m

variable {i : Interpreter} {source : String} {context : AlertContext} {frame : Addr}
  {last : Option Datum} {m : Machine} {o : Outcome}

theorem readOutcome_eq (m : Machine) (frame : Addr) (last : Option Datum) :
    readOutcome m frame last
      = ((m.resultLeft frame).map (Outcome.mk (m.decided last))).mapError .notPlain := by
  unfold readOutcome Machine.resultLeft Machine.decided
  dsimp only
  cases (m.bindings frame).lookup "result" with
  | none => rfl
  | some bound =>
      cases bound with
      | none => rfl
      | some d =>
          dsimp only
          cases m.toValue d with
          | error e => rfl
          | ok v => rfl

theorem Finishes.run_eq (h : i.Finishes source context frame last m) :
    (i.run none source context).1 = readOutcome m frame last := by
  obtain ⟨statements, hparse, hbound, hrun⟩ := h
  unfold run
  rw [if_neg (fun h => by cases h), hparse]
  dsimp only
  rw [hbound]
  dsimp only
  rw [hrun]

/-- The cells of the interpreter are still there at the end. -/
theorem Finishes.size_le (h : i.Finishes source context frame last m) :
    i.cells.size ≤ m.cells.size := by
  obtain ⟨statements, -, -, hrun⟩ := h
  have hkeeps := (Built.condition i context statements).keeps ⟨i.cells, i.cells.size, none, 0⟩
  unfold Eval.stateAfter at hkeeps
  rw [hrun] at hkeeps
  exact hkeeps.size

/-- A result that is not plain data is a failure, whatever the last statement came to. -/
theorem Finishes.run_unplain (h : i.Finishes source context frame last m) {e : NotPlain}
    (hleft : m.resultLeft frame = .error e) :
    (i.run none source context).1 = .error (.notPlain e) := by
  rw [h.run_eq, readOutcome_eq, hleft]
  rfl

/-- There is an outcome only behind a condition that came to its last statement, and it is made
of what that statement came to and of what is left in `result`. -/
theorem finishes_of_run (h : (i.run none source context).1 = .ok o) :
    ∃ frame last m, i.Finishes source context frame last m ∧
      o.matched = m.decided last ∧ m.resultLeft frame = .ok o.result := by
  unfold run at h
  rw [if_neg (fun h => by cases h)] at h
  split at h
  · cases h
  · case _ statements hparse =>
    split at h
    · cases h
    · case _ hbound =>
      dsimp only at h
      split at h
      · case _ frame last m hrun =>
        refine ⟨frame, last, m, ⟨statements, hparse, hbound, hrun⟩, ?_⟩
        rw [readOutcome_eq] at h
        cases hleft : m.resultLeft frame with
        | error e =>
            rw [hleft] at h
            cases h
        | ok v =>
            rw [hleft] at h
            cases h
            exact ⟨rfl, rfl⟩
      · cases h

end Interpreter

end Lookout.Script
