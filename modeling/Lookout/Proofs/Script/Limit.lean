/-
Giving up on a run changes nothing but where it ends.

A run whose limit comes behind its last look is the run without a limit, with the same outcome and
the same interpreter left behind; one whose limit comes before that is cut off, and a run without
a limit never is.
-/
import Lookout.Proofs.Script.CutOff

namespace Lookout.Script

/-- Without a limit no step of evaluation gives up. -/
theorem Built.not_cancelled {α : Type} {e : Eval α} (he : Built e) :
    ∀ m m' : Machine, m.cancelAt = none → e.run m ≠ .error .cancelled m' := by
  induction he with
  | pure x => exact fun _ _ _ hr => by cases hr
  | halt h hh => exact fun _ _ _ hr => by cases hr; exact hh rfl
  | look hk hb ih => exact fun m m' hlimit hr => ih m m m' hlimit hr
  | alloc c => exact fun _ _ _ hr => by cases hr
  | change a hf => exact fun _ _ _ hr => by cases hr
  | beginStatement =>
      intro m m' hlimit hr
      have hgoes : m.isCancelled = false := by
        unfold Machine.isCancelled
        rw [hlimit]
      unfold Eval.beginStatement at hr
      rw [EStateM.run_bind] at hr
      simp only [EStateM.run_get, hgoes] at hr
      cases hr
  | beginRound => exact fun _ _ _ hr => by cases hr
  | @bind α β e k he hk ihe ihk =>
      intro m m' hlimit hr
      rw [EStateM.run_bind] at hr
      have hkeeps := he.keeps m
      unfold Eval.stateAfter at hkeeps
      cases hfirst : e.run m with
      | ok x mid =>
          rw [hfirst] at hr hkeeps
          exact ihk x mid m' (hkeeps.limit.trans hlimit) hr
      | error h mid =>
          rw [hfirst] at hr
          cases hr
          exact ihe m m' hlimit hfirst

/-! ### Conditions -/

/-- Reading an outcome back does not show the clock. -/
theorem readOutcome_unlimited (m : Machine) (frame : Addr) (last : Option Datum) :
    Interpreter.readOutcome m.unlimited frame last = Interpreter.readOutcome m frame last := by
  unfold Interpreter.readOutcome Machine.toValue Machine.unlimited
  rw [withClock_truth]
  simp only [withClock_plain]
  rfl

namespace Interpreter

/-- What the steps of a condition leave: its outcome or trouble, and the interpreter. -/
def conclude (i : Interpreter) :
    EStateM.Result Halt Machine (Addr × Option Datum) → Except Trouble Outcome × Interpreter
  | .ok (frame, last) m => (readOutcome m frame last, { i with cells := m.cells.take m.frozen })
  | .error h m => (.error h.trouble, { i with cells := m.cells.take m.frozen })

theorem conclude_withoutLimit (i : Interpreter)
    (r : EStateM.Result Halt Machine (Addr × Option Datum)) :
    i.conclude (withoutLimit r) = i.conclude r := by
  cases r with
  | ok x m =>
      obtain ⟨frame, last⟩ := x
      show (readOutcome m.unlimited frame last, _) = (readOutcome m frame last, _)
      rw [readOutcome_unlimited]
      rfl
  | error h m => rfl

/-- A run behind its first look at whether it was given up on. -/
def evaluate (i : Interpreter) (cancelAt : Option Nat) (source : String)
    (context : AlertContext) : Except Trouble Outcome × Interpreter :=
  match parse source with
  | .error f => (.error (.unreadable f), i)
  | .ok statements =>
    match unboundName? (i.given context .none) statements with
    | some name => (.error (.unbound name), i)
    | none =>
      i.conclude ((condition i context statements).run ⟨i.cells, i.cells.size, cancelAt, 0⟩)

/-- A run looks whether it was given up on, and evaluates its condition if it was not. -/
theorem run_eq_evaluate (i : Interpreter) (cancelAt : Option Nat) (source : String)
    (context : AlertContext) :
    i.run cancelAt source context =
      if cancelAt = some 0 then (.error .cancelled, i) else i.evaluate cancelAt source context := by
  unfold run evaluate
  by_cases early : cancelAt = some 0
  · rw [if_pos early, if_pos early]
  · rw [if_neg early, if_neg early]
    cases parse source with
    | error f => rfl
    | ok statements =>
        dsimp only
        cases unboundName? (i.given context .none) statements with
        | some name => rfl
        | none =>
            dsimp only
            cases (condition i context statements).run ⟨i.cells, i.cells.size, cancelAt, 0⟩ with
            | ok x m => rfl
            | error h m => rfl

/-- There is a last time at which giving up on a run cuts it off. -/
theorem exists_last (i : Interpreter) (source : String) (context : AlertContext) :
    ∃ last ≤ i.lasts none source context, ∀ n,
      (n < last → (i.evaluate (some n) source context).1 = .error .cancelled) ∧
        (last ≤ n → i.evaluate (some n) source context = i.evaluate none source context) := by
  unfold lasts evaluate
  cases parse source with
  | error f =>
      exact ⟨0, Nat.le_refl _, fun n => ⟨fun hn => absurd hn (Nat.not_lt_zero n), fun _ => rfl⟩⟩
  | ok statements =>
      dsimp only
      cases unboundName? (i.given context .none) statements with
      | some name =>
          exact ⟨0, Nat.zero_le _, fun n => ⟨fun hn => absurd hn (Nat.not_lt_zero n), fun _ => rfl⟩⟩
      | none =>
          dsimp only
          obtain ⟨last, h⟩ := (Built.condition i context statements).cutOff
            ⟨i.cells, i.cells.size, none, 0⟩
          refine ⟨last, ?_, fun n => ⟨?_, ?_⟩⟩
          · have bound := h.bound
            unfold Eval.stateAfter Machine.unlimited Machine.withClock at bound
            dsimp only at bound
            cases hrun : (condition i context statements).run ⟨i.cells, i.cells.size, none, 0⟩ with
            | ok x m =>
                rw [hrun] at bound
                exact bound
            | error halt m =>
                rw [hrun] at bound
                exact bound
          · intro hn
            obtain ⟨m', cutOff⟩ := h.before n hn
            have cutOff : (condition i context statements).run
              ⟨i.cells, i.cells.size, some n, 0⟩ = _ := cutOff
            rw [cutOff]
            rfl
          · intro hn
            have same := congrArg i.conclude (h.after n hn)
            rw [conclude_withoutLimit] at same
            exact same

end Interpreter

/-- **A condition that is given up on has no outcome, and one that is not has the outcome of a
full run**, whenever its caller may have lost patience. -/
theorem Interpreter.run_limited (i : Interpreter) (n : Nat) (source : String)
    (context : AlertContext) :
    (i.run (some n) source context).1 = .error .cancelled ∨
      i.run (some n) source context = i.run none source context := by
  rw [run_eq_evaluate, run_eq_evaluate, if_neg (show ¬ none = some 0 from fun h => by cases h)]
  by_cases early : some n = some 0
  · rw [if_pos early]
    exact Or.inl rfl
  · rw [if_neg early]
    obtain ⟨last, -, h⟩ := i.exists_last source context
    by_cases cutOff : n < last
    · exact Or.inl ((h n).1 cutOff)
    · exact Or.inr ((h n).2 (Nat.le_of_not_lt cutOff))

/-- A run that nobody gave up on is a full run. -/
theorem Interpreter.run_of_not_cancelled (i : Interpreter) {patience : Option Nat}
    {source : String} {context : AlertContext}
    (hfull : (i.run patience source context).1 ≠ .error .cancelled) :
    i.run patience source context = i.run none source context := by
  cases patience with
  | none => rfl
  | some n => exact (i.run_limited n source context).resolve_left hfull

/-- A condition that may run as long as it likes is not given up on. -/
theorem Interpreter.run_none_ne_cancelled (i : Interpreter) (source : String)
    (context : AlertContext) : (i.run none source context).1 ≠ .error .cancelled := by
  unfold Interpreter.run
  rw [if_neg (fun h => by cases h)]
  split
  · exact fun h => by cases h
  · case _ statements _ =>
    split
    · exact fun h => by cases h
    · dsimp only
      split
      · -- reading the outcome back gives up on nothing
        case _ frame last m _ =>
        unfold readOutcome
        intro h
        dsimp only at h
        split at h
        · split at h
          · cases h
          · cases h
        · cases h
      · case _ h m hr =>
        intro hc
        cases h with
        | cancelled => exact (Built.condition i context statements).not_cancelled _ m rfl hr
        | fault f => cases hc
        | died => cases hc

end Lookout.Script
