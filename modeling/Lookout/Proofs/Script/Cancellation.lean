/-
What a run comes to that somebody gives up on.

A run can be given up on at any moment: before it looks for the first time, between that look and
its first statement, while any statement or round runs, however deep in calls and loops, or when
there is nothing left to run.  Whenever it is, the run is cut off or comes to what it comes to if
nobody gives up on it.
-/
import Lookout.Proofs.Script.Limit

namespace Lookout.Script.Interpreter

/-- When a run is given up on. -/
inductive Moment where
  | never
  /-- Before it looks for the first time. -/
  | before
  /-- Behind that look, at this time of its clock, which is zero until its first statement. -/
  | during (clock : Nat)

/-- A run that is given up on at a moment. -/
def runAt (i : Interpreter) (source : String) (context : AlertContext) :
    Moment → Except Trouble Outcome × Interpreter
  | .never => i.run none source context
  | .before => i.run (some 0) source context
  | .during clock => i.evaluate (some clock) source context

theorem runAt_never (i : Interpreter) (source : String) (context : AlertContext) :
    i.runAt source context .never = i.evaluate none source context := by
  unfold runAt
  rw [run_eq_evaluate, if_neg (by simp)]

/-- **Giving up on a run never makes up an outcome.**  At whatever moment it is given up on, a run
is cut off or is the run that nobody gives up on; it is always cut off if that moment is before it
starts; and there is a last time, not beyond the end of the full run, at which it still is. -/
theorem runAt_cancelled_or_full (i : Interpreter) (source : String) (context : AlertContext) :
    (∀ moment, (i.runAt source context moment).1 = .error .cancelled ∨
        i.runAt source context moment = i.run none source context) ∧
      (i.runAt source context .before).1 = .error .cancelled ∧
      (i.run none source context).1 ≠ .error .cancelled ∧
      ∃ last ≤ i.lasts none source context, ∀ n,
        (i.runAt source context (.during n)).1 = .error .cancelled ↔ n < last := by
  obtain ⟨last, bound, h⟩ := i.exists_last source context
  have full : i.evaluate none source context = i.run none source context :=
    (i.runAt_never source context).symm
  have notCancelled := i.run_none_ne_cancelled source context
  refine ⟨?_, rfl, notCancelled, last, bound, ?_⟩
  · intro moment
    cases moment with
    | never => exact Or.inr rfl
    | before => exact Or.inl rfl
    | during n =>
        by_cases early : n < last
        · exact Or.inl ((h n).1 early)
        · exact Or.inr (((h n).2 (Nat.le_of_not_lt early)).trans full)
  · intro n
    constructor
    · intro cutOff
      by_contra late
      apply notCancelled
      rw [← full, ← (h n).2 (Nat.le_of_not_lt late)]
      exact cutOff
    · exact (h n).1

example : ([0, 1, 2].map fun clock =>
    (bare.runAt "x = 1\nx == 1" ⟨"disk full", 0, .null⟩ (.during clock)).1.toOption.map (·.matched))
      = [none, none, some true] := by
  decide +kernel

end Lookout.Script.Interpreter
