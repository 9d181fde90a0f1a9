/-
What one step of a cycle does.

As for the steps of a pool, there is one lemma for each step.  It says at which stage the step is
possible, what it needs of the pool, and which state it leads to, so that no other proof has to
open the definition of a step.
-/
import Lookout.Cycle.Step

namespace Lookout

open Lookout.Cycle (Stage State Event ActionStage)

namespace CycleTask

variable {t : CycleTask} {s s' : State}

/-- The end of a cycle that is late. -/
def late (t : CycleTask) : Stage :=
  .ended (.failed (.timeout t.timeout))

/-- Where a cycle is behind the end of its query. -/
def behind (t : CycleTask) : Except QueryError Value → Stage
  | .error e => .ended (.failed (.query e))
  | .ok v => .queueing ⟨t.alert.name, t.now, v⟩

theorem answer_cases {result : Except QueryError Value}
    (hs : t.step? s (.answer result) = some s') :
    s.stage = .asking ∧ s' = { s with answer := some result, stage := t.behind result } := by
  unfold step? at hs
  dsimp only at hs
  split at hs
  · case _ hstage =>
    cases hs
    refine ⟨hstage, ?_⟩
    cases result with
    | error e => rfl
    | ok v => rfl
  · cases hs

/-- Others take no steps of the handle that the cycle has. -/
theorem elsewhere_cases {e : Pool.Event} (hs : t.step? s (.elsewhere e) = some s') :
    ∃ q, (∀ k, e.handle? = some k → s.stage.handle? ≠ some k) ∧ s.pool.step? e = some q ∧
      s' = { s with pool := q } := by
  unfold step? at hs
  dsimp only at hs
  split at hs
  · cases hs
  · case _ hother =>
    obtain ⟨q, hq, rfl⟩ := Option.map_eq_some_iff.mp hs
    refine ⟨q, fun k he hk => hother ?_, hq, rfl⟩
    rw [he, hk]
    simp

theorem takePermit_cases (hs : t.step? s .takePermit = some s') :
    ∃ c q, s.stage = .queueing c ∧ s.pool.takePermit = some q ∧
      s' = { s with pool := q, stage := .permitted c s.pool.nextHandle } := by
  unfold step? at hs
  dsimp only at hs
  split at hs
  · case _ c hstage =>
    obtain ⟨q, hq, rfl⟩ := Option.map_eq_some_iff.mp hs
    exact ⟨c, q, hstage, hq, rfl⟩
  · cases hs

theorem popSlot_cases (hs : t.step? s .popSlot = some s') :
    ∃ c k q, s.stage = .permitted c k ∧ s.pool.popSlot k = some q ∧
      ((q.holding? k = some .refused ∧ s' = { s with
          pool := q
          told := some (.error .noSlot)
          stage := .ended (.failed (.script .noSlot)) }) ∨
        (q.holding? k ≠ some .refused ∧ s' = { s with pool := q, stage := .seated c k })) := by
  unfold step? at hs
  dsimp only at hs
  split at hs
  · case _ c k hstage =>
    unfold popSlot at hs
    split at hs
    · cases hs
    · case _ q hq =>
      split at hs
      · case _ hrefused =>
        cases hs
        exact ⟨c, k, q, hstage, hq, Or.inl ⟨hrefused, rfl⟩⟩
      · case _ hseated =>
        cases hs
        exact ⟨c, k, q, hstage, hq, Or.inr ⟨hseated, rfl⟩⟩
  · cases hs

theorem conclude_cases {c : AlertContext} {k : Nat} (hs : t.conclude c k s = some s') :
    ∃ a rest q, s.pool.answers = a :: rest ∧ s.pool.dropHandle k = some q ∧ s' = { s with
      pool := q
      told := some a.outcome
      stage := t.verdict c a.outcome } := by
  unfold conclude at hs
  split at hs
  · case _ a rest q hanswers hq =>
    cases hs
    exact ⟨a, rest, q, hanswers, hq, rfl⟩
  · cases hs

/-- A job that a dead worker does not take is an answer, and one that is taken is waited for. -/
theorem send_cases (hs : t.step? s .send = some s') :
    ∃ c k q, s.stage = .seated c k ∧ s.pool.send k (t.request c) = some q ∧
      ((∃ slot, q.holding? k = some (.held slot .dead) ∧
          t.conclude c k { s with pool := q, job := some s.pool.jobs.size } = some s') ∨
        ((∀ slot, q.holding? k ≠ some (.held slot .dead)) ∧ s' = { s with
          pool := q
          job := some s.pool.jobs.size
          stage := .judging c k })) := by
  unfold step? at hs
  dsimp only at hs
  split at hs
  · case _ c k hstage =>
    unfold send at hs
    split at hs
    · cases hs
    · case _ q hq =>
      dsimp only at hs
      split at hs
      · case _ slot hdead => exact ⟨c, k, q, hstage, hq, Or.inl ⟨slot, hdead, hs⟩⟩
      · case _ halive =>
        cases hs
        exact ⟨c, k, q, hstage, hq, Or.inr ⟨halive, rfl⟩⟩
  · cases hs

theorem receive_cases (hs : t.step? s .receive = some s') :
    ∃ c k q, s.stage = .judging c k ∧ s.pool.receive k = some q ∧
      t.conclude c k { s with pool := q } = some s' := by
  unfold step? at hs
  dsimp only at hs
  split at hs
  · case _ c k hstage =>
    obtain ⟨q, hq, hs⟩ := Option.bind_eq_some_iff.mp hs
    exact ⟨c, k, q, hstage, hq, hs⟩
  · cases hs

theorem beginAction_cases {n : Nat} (hs : t.step? s (.beginAction n) = some s') :
    ∃ c stages a, s.stage = .acting c stages ∧ t.alert.actions[n]? = some a ∧
      stages[n]? = some .due ∧ s' = { s with
        stage := .acting c (stages.set n .begun)
        sent := s.sent ++ (t.dispatcher.dispatch t.net c a).requests
        logs := s.logs ++ (t.dispatcher.dispatch t.net c a).logs } := by
  unfold step? at hs
  dsimp only at hs
  split at hs
  · case _ c stages hstage =>
    unfold beginAction at hs
    split at hs
    · case _ a ha hdue =>
      cases hs
      exact ⟨c, stages, a, hstage, ha, hdue, rfl⟩
    · cases hs
  · cases hs

theorem endAction_cases {n : Nat} (hs : t.step? s (.endAction n) = some s') :
    ∃ c stages a, s.stage = .acting c stages ∧ t.alert.actions[n]? = some a ∧
      stages[n]? = some .begun ∧ s' = { s with
        stage := .acting c (stages.set n (.done (t.dispatcher.dispatch t.net c a).result)) } := by
  unfold step? at hs
  dsimp only at hs
  split at hs
  · case _ c stages hstage =>
    unfold endAction at hs
    split at hs
    · case _ a ha hbegun =>
      cases hs
      exact ⟨c, stages, a, hstage, ha, hbegun, rfl⟩
    · cases hs
  · cases hs

theorem report_cases (hs : t.step? s .report = some s') :
    ∃ c stages outcomes, s.stage = .acting c stages ∧
      Cycle.outcomes? 0 t.alert.actions stages = some outcomes ∧
      s' = { s with stage := .ended (.matched ⟨outcomes⟩) } := by
  unfold step? at hs
  dsimp only at hs
  split at hs
  · case _ c stages hstage =>
    obtain ⟨outcomes, houtcomes, rfl⟩ := Option.map_eq_some_iff.mp hs
    exact ⟨c, stages, outcomes, hstage, houtcomes, rfl⟩
  · cases hs

/-- The deadline ends a cycle that waits, and lets go of its handle if it has one. -/
theorem deadline_cases (hs : t.step? s .deadline = some s') :
    (∀ outcome, s.stage ≠ .ended outcome) ∧
      (s' = { s with stage := t.late } ∨
        ∃ k q, s.pool.dropHandle k = some q ∧ s' = { s with pool := q, stage := t.late }) := by
  have hs : t.deadline s = some s' := hs
  unfold deadline at hs
  dsimp only at hs
  split at hs
  · case _ hstage =>
    cases hs
    exact ⟨fun _ h => (by rw [hstage] at h; cases h), Or.inl rfl⟩
  · case _ hstage =>
    cases hs
    exact ⟨fun _ h => (by rw [hstage] at h; cases h), Or.inl rfl⟩
  · case _ c k hstage =>
    obtain ⟨q, hq, rfl⟩ := Option.map_eq_some_iff.mp hs
    exact ⟨fun _ h => (by rw [hstage] at h; cases h), Or.inr ⟨k, q, hq, rfl⟩⟩
  · case _ hstage =>
    cases hs
    exact ⟨fun _ h => (by rw [hstage] at h; cases h), Or.inl rfl⟩
  · cases hs

theorem steps?_cons (e : Event) (es : List Event) (s : State) :
    t.steps? s (e :: es) = (t.step? s e).bind fun s' => t.steps? s' es := by
  cases h : t.step? s e with
  | none => simp [steps?, h]
  | some s' => simp [steps?, h]

/-! ### The end -/

/-- A cycle that was told about its condition is not late for it. -/
theorem verdict_ne_late (c : AlertContext) (told : Except EvalError Script.Outcome) :
    t.verdict c told ≠ t.late := by
  unfold verdict late
  split
  · exact fun h => by cases h
  · split
    · exact fun h => by cases h
    · exact fun h => by cases h

/-- Only the deadline makes a cycle late. -/
theorem step?_late {e : Event} (hs : t.step? s e = some s') (hlate : s'.stage = t.late) :
    s.stage = t.late ∨ e = .deadline := by
  cases e with
  | deadline => exact Or.inr rfl
  | answer result =>
      obtain ⟨-, rfl⟩ := answer_cases hs
      cases result with
      | error e => cases hlate
      | ok v => cases hlate
  | elsewhere e =>
      obtain ⟨q, -, -, rfl⟩ := elsewhere_cases hs
      exact Or.inl hlate
  | takePermit =>
      obtain ⟨c, q, -, -, rfl⟩ := takePermit_cases hs
      cases hlate
  | popSlot =>
      obtain ⟨c, k, q, -, -, ⟨-, rfl⟩ | ⟨-, rfl⟩⟩ := popSlot_cases hs
      · cases hlate
      · cases hlate
  | send =>
      obtain ⟨c, k, q, -, -, ⟨slot, -, hs⟩ | ⟨-, rfl⟩⟩ := send_cases hs
      · obtain ⟨a, rest, q, -, -, rfl⟩ := conclude_cases hs
        exact absurd hlate (verdict_ne_late c _)
      · cases hlate
  | receive =>
      obtain ⟨c, k, q, -, -, hs⟩ := receive_cases hs
      obtain ⟨a, rest, q, -, -, rfl⟩ := conclude_cases hs
      exact absurd hlate (verdict_ne_late c _)
  | beginAction n =>
      obtain ⟨c, stages, a, -, -, -, rfl⟩ := beginAction_cases hs
      cases hlate
  | endAction n =>
      obtain ⟨c, stages, a, -, -, -, rfl⟩ := endAction_cases hs
      cases hlate
  | report =>
      obtain ⟨c, stages, outcomes, -, -, rfl⟩ := report_cases hs
      cases hlate

/-- A cycle that has ended stays as it has ended. -/
theorem step?_ended {e : Event} {outcome : CycleOutcome} (hended : s.stage = .ended outcome)
    (hs : t.step? s e = some s') : s'.stage = .ended outcome := by
  have hnot : ∀ {stage}, s.stage = stage → stage = .ended outcome :=
    fun hstage => hstage.symm.trans hended
  cases e with
  | elsewhere e =>
      obtain ⟨q, -, -, rfl⟩ := elsewhere_cases hs
      exact hended
  | answer result => cases hnot (answer_cases hs).1
  | deadline => exact absurd hended ((deadline_cases hs).1 outcome)
  | takePermit =>
      obtain ⟨c, q, hstage, -⟩ := takePermit_cases hs
      cases hnot hstage
  | popSlot =>
      obtain ⟨c, k, q, hstage, -⟩ := popSlot_cases hs
      cases hnot hstage
  | send =>
      obtain ⟨c, k, q, hstage, -⟩ := send_cases hs
      cases hnot hstage
  | receive =>
      obtain ⟨c, k, q, hstage, -⟩ := receive_cases hs
      cases hnot hstage
  | beginAction n =>
      obtain ⟨c, stages, a, hstage, -⟩ := beginAction_cases hs
      cases hnot hstage
  | endAction n =>
      obtain ⟨c, stages, a, hstage, -⟩ := endAction_cases hs
      cases hnot hstage
  | report =>
      obtain ⟨c, stages, outcomes, hstage, -⟩ := report_cases hs
      cases hnot hstage

theorem step?_deadline (hs : t.step? s .deadline = some s') : s'.stage = t.late := by
  obtain ⟨-, rfl | ⟨k, q, -, rfl⟩⟩ := deadline_cases hs
  · rfl
  · rfl

end CycleTask

end Lookout
