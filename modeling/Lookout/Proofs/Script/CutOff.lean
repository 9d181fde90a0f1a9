/-
Up to when giving up on a step of evaluation cuts it off.

A limit is looked at when a statement begins, and by nothing else: no step of evaluation shows
the clock to the script.  So every step has a last moment at which giving up still cuts it off,
one for the latest statement that it begins, however deep in calls and loops; at any later moment
it does what it does without a limit.
-/
import Lookout.Proofs.Script.Frozen

namespace Lookout.Script

/-- The state without a limit. -/
def Machine.unlimited (m : Machine) : Machine :=
  m.withClock none m.begun

/-- What a step comes to, with the limit taken off the state it leaves. -/
def withoutLimit {α : Type} : EStateM.Result Halt Machine α → EStateM.Result Halt Machine α
  | .ok x m => .ok x m.unlimited
  | .error h m => .error h m.unlimited

/-- The state with the time at which the run is given up on. -/
def Machine.limitedTo (n : Nat) (m : Machine) : Machine :=
  m.withClock (some n) m.begun

theorem Machine.unlimited_eq {m : Machine} (h : m.cancelAt = none) : m.unlimited = m := by
  show Machine.mk m.cells m.frozen none m.begun = m
  rw [← h]

theorem Machine.limitedTo_eq {m : Machine} {n : Nat} (h : m.cancelAt = some n) :
    m.limitedTo n = m := by
  show Machine.mk m.cells m.frozen (some n) m.begun = m
  rw [← h]

/-- A step is cut off if it is given up on before this time of the clock, and else does what it does
without a limit. -/
structure CutOffBefore {α : Type} (e : Eval α) (m : Machine) (last : Nat) : Prop where
  before : ∀ n < last, ∃ m', e.run (m.limitedTo n) = .error .cancelled m'
  after : ∀ n, last ≤ n → withoutLimit (e.run (m.limitedTo n)) = e.run m.unlimited
  /-- The last look is not later than the end. -/
  bound : last ≤ (e.stateAfter m.unlimited).begun

namespace CutOffBefore

variable {α β : Type}

/-- A step that does not look at the limit is never cut off. -/
theorem never {e : Eval α} {m : Machine}
    (h : ∀ n, withoutLimit (e.run (m.limitedTo n)) = e.run m.unlimited) : CutOffBefore e m 0 where
  before := by
    intro n hn
    exact absurd hn (Nat.not_lt_zero n)
  after := fun n _ => h n
  bound := Nat.zero_le _

theorem beginStatement (m : Machine) : CutOffBefore Eval.beginStatement m (m.begun + 1) where
  before := by
    intro n hn
    have looks : (m.limitedTo n).isCancelled = true := by
      show decide (n ≤ m.begun) = true
      exact decide_eq_true (Nat.le_of_lt_succ hn)
    refine ⟨m.limitedTo n, ?_⟩
    unfold Eval.beginStatement
    rw [EStateM.run_bind]
    simp only [EStateM.run_get, looks]
    rfl
  after := by
    intro n hn
    have looks : (m.limitedTo n).isCancelled = false := by
      show decide (n ≤ m.begun) = false
      exact decide_eq_false (Nat.not_le_of_lt hn)
    unfold Eval.beginStatement
    rw [EStateM.run_bind]
    simp only [EStateM.run_get, looks]
    rfl
  bound := by
    rw [stateAfter_beginStatement]
    exact Nat.le_refl _

/-- What a step that is not cut off any more comes to. -/
theorem ok_of_after {e : Eval α} {m mid : Machine} {n last : Nat} {x : α} (he : Built e)
    (h : CutOffBefore e m last) (hn : last ≤ n) (full : e.run m.unlimited = .ok x mid) :
    e.run (m.limitedTo n) = .ok x (mid.limitedTo n) := by
  have same := h.after n hn
  rw [full] at same
  have keeps := he.keeps (m.limitedTo n)
  unfold Eval.stateAfter at keeps
  cases limited : e.run (m.limitedTo n) with
  | error halt mid' =>
      rw [limited] at same
      cases same
  | ok y mid' =>
      rw [limited] at same keeps
      cases same
      have limit : mid'.cancelAt = some n := keeps.limit
      show EStateM.Result.ok x mid' = .ok x (mid'.limitedTo n)
      rw [Machine.limitedTo_eq limit]

/-- A state that comes of a run without a limit has none. -/
theorem unlimited_of_run {e : Eval α} {m mid : Machine} {x : α} (he : Built e)
    (full : e.run m.unlimited = .ok x mid) : mid.unlimited = mid := by
  have keeps := he.keeps m.unlimited
  unfold Eval.stateAfter at keeps
  rw [full] at keeps
  exact Machine.unlimited_eq keeps.limit

/-- A step that halts without a limit leaves nothing to cut off behind it. -/
theorem bind_error {e : Eval α} {k : α → Eval β} {m mid : Machine} {halt : Halt} {last : Nat}
    (full : e.run m.unlimited = .error halt mid) (h : CutOffBefore e m last) :
    CutOffBefore (e >>= k) m last where
  before := by
    intro n hn
    obtain ⟨m', cutOff⟩ := h.before n hn
    refine ⟨m', ?_⟩
    rw [EStateM.run_bind, cutOff]
  after := by
    intro n hn
    have same := h.after n hn
    rw [EStateM.run_bind, EStateM.run_bind]
    rw [full] at same ⊢
    cases limited : e.run (m.limitedTo n) with
    | ok x mid' =>
        rw [limited] at same
        cases same
    | error halt' mid' =>
        rw [limited] at same
        cases same
        rfl
  bound := by
    have bound := h.bound
    unfold Eval.stateAfter at bound
    rw [full] at bound
    rw [stateAfter_bind, full]
    exact bound

/-- One step after another is cut off in the first or in the second one. -/
theorem bind_ok {e : Eval α} {k : α → Eval β} {m mid : Machine} {x : α} {first second : Nat}
    (he : Built e) (hk : Built (k x)) (full : e.run m.unlimited = .ok x mid)
    (hfirst : CutOffBefore e m first) (hsecond : CutOffBefore (k x) mid second) :
    CutOffBefore (e >>= k) m (max first second) where
  before := by
    intro n hn
    rw [EStateM.run_bind]
    by_cases early : n < first
    · obtain ⟨m', cutOff⟩ := hfirst.before n early
      rw [cutOff]
      exact ⟨m', rfl⟩
    · rw [hfirst.ok_of_after he (Nat.le_of_not_lt early) full]
      exact hsecond.before n (by omega)
  after := by
    intro n hn
    have firstPassed : first ≤ n := Nat.le_trans (Nat.le_max_left ..) hn
    have passed := hfirst.ok_of_after he firstPassed full
    have same := hsecond.after n (Nat.le_trans (Nat.le_max_right ..) hn)
    rw [EStateM.run_bind, EStateM.run_bind, passed, full]
    rw [unlimited_of_run he full] at same
    exact same
  bound := by
    have firstBound := hfirst.bound
    have secondBound := hsecond.bound
    have later := (hk.keeps mid).begun
    rw [unlimited_of_run he full] at secondBound
    rw [stateAfter_bind, full]
    unfold Eval.stateAfter at firstBound
    rw [full] at firstBound
    dsimp only at firstBound ⊢
    omega

end CutOffBefore

/-- **Every step of evaluation has a last moment at which giving up on it cuts it off.** -/
theorem Built.cutOff {α : Type} {e : Eval α} (he : Built e) :
    ∀ m : Machine, ∃ last, CutOffBefore e m last := by
  induction he with
  | pure x => exact fun m => ⟨0, .never fun n => rfl⟩
  | halt h hh => exact fun m => ⟨0, .never fun n => rfl⟩
  | @look α k hk hb ih =>
      intro m
      -- What is looked at does not show the limit, so the step goes on as it does at this state.
      obtain ⟨last, h⟩ := ih m m
      have limited : ∀ n, (get >>= k).run (m.limitedTo n) = (k m).run (m.limitedTo n) := by
        intro n
        show (k (m.limitedTo n)).run (m.limitedTo n) = (k m).run (m.limitedTo n)
        exact congrArg (fun e => EStateM.run e (m.limitedTo n)) (hb m (some n) m.begun)
      have unlimited : (get >>= k).run m.unlimited = (k m).run m.unlimited := by
        show (k m.unlimited).run m.unlimited = (k m).run m.unlimited
        exact congrArg (fun e => EStateM.run e m.unlimited) (hb m none m.begun)
      refine ⟨last, ?_, ?_, ?_⟩
      · intro n hn
        rw [limited]
        exact h.before n hn
      · intro n hn
        rw [limited, unlimited]
        exact h.after n hn
      · unfold Eval.stateAfter
        rw [unlimited]
        exact h.bound
  | alloc c => exact fun m => ⟨0, .never fun n => rfl⟩
  | change a hf =>
      intro m
      refine ⟨0, .never fun n => ?_⟩
      show withoutLimit (.ok () (if a < m.frozen then m.limitedTo n else _))
        = EStateM.Result.ok () (if a < m.frozen then m.unlimited else _)
      split
      · rfl
      · rfl
  | beginStatement => exact fun m => ⟨m.begun + 1, .beginStatement m⟩
  | beginRound => exact fun m => ⟨0, .never fun n => rfl⟩
  | @bind α β e k he hk ihe ihk =>
      intro m
      obtain ⟨first, hfirst⟩ := ihe m
      cases full : e.run m.unlimited with
      | ok x mid =>
          obtain ⟨second, hsecond⟩ := ihk x mid
          exact ⟨max first second, .bind_ok he (hk x) full hfirst hsecond⟩
      | error halt mid => exact ⟨first, .bind_error full hfirst⟩

end Lookout.Script
