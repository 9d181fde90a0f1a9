/-
How a cycle can end.

Only the deadline makes a cycle late, and a cycle that has ended stays as it is; so a cycle is late
at its end if and only if its deadline has passed on the way.  And from every state that it can be
in a cycle can end without the help of others: where it waits its deadline can pass, and where it
does not wait nothing can keep it from going on to where it waits again.
-/
import Lookout.Proofs.Cycle.Sound
import Lookout.Proofs.Pool.Staffed

namespace Lookout

open Script (Interpreter Outcome)
open Lookout.Cycle (Stage State Event Sound)

variable {t : CycleTask} {s s' : State} {outcome : CycleOutcome}

/-! ### The deadline -/

namespace CycleTask

theorem steps?_ended : ∀ (es : List Event) {s s' : State},
    s.stage = .ended outcome → t.steps? s es = some s' → s'.stage = .ended outcome := by
  intro es
  induction es with
  | nil =>
      intro s s' hs hsteps
      cases hsteps
      exact hs
  | cons e rest ih =>
      intro s s' hs hsteps
      rw [steps?_cons] at hsteps
      obtain ⟨mid, hmid, hrest⟩ := Option.bind_eq_some_iff.mp hsteps
      exact ih (step?_ended hs hmid) hrest

theorem ended_eq_late : Stage.ended outcome = t.late ↔ outcome = .failed (.timeout t.timeout) := by
  unfold late
  rw [Stage.ended.injEq]

/-- A cycle is late at its end if and only if its deadline has passed on the way. -/
theorem late_iff : ∀ (es : List Event) {s s' : State}, t.steps? s es = some s' →
    s.stage ≠ t.late → (s'.stage = t.late ↔ .deadline ∈ es) := by
  intro es
  induction es with
  | nil =>
      intro s s' hs hnot
      cases hs
      exact ⟨fun h => absurd h hnot, fun h => by cases h⟩
  | cons e rest ih =>
      intro s s' hs hnot
      rw [steps?_cons] at hs
      obtain ⟨mid, hmid, hrest⟩ := Option.bind_eq_some_iff.mp hs
      by_cases hlate : mid.stage = t.late
      · have he : e = .deadline := (step?_late hmid hlate).resolve_left hnot
        exact ⟨fun _ => by rw [he]; exact List.mem_cons_self,
          fun _ => steps?_ended rest hlate hrest⟩
      · rw [ih hrest hlate]
        refine ⟨List.mem_cons_of_mem _, fun hmem => ?_⟩
        rcases List.mem_cons.mp hmem with rfl | hmem
        · exact absurd (step?_deadline hmid) hlate
        · exact hmem

end CycleTask

namespace Cycle

theorem start_ne_late (p : Pool) : (start p).stage ≠ t.late := by
  unfold start CycleTask.late
  exact fun h => Stage.noConfusion h

/-! ### Going on -/

/-- Whether the deadline may pass at a stage, or would come too late. -/
def Stage.isOpen : Stage → Bool
  | .permitted _ _ => false
  | .seated _ _ => false
  | _ => true

end Cycle

namespace CycleTask

/-- The cycle can end by steps of its own alone. -/
def CanEnd (t : CycleTask) (s : State) : Prop :=
  ∃ own s' outcome, (∀ e ∈ own, e = .popSlot ∨ e = .send ∨ e = .deadline) ∧
    t.steps? s own = some s' ∧ s'.stage = .ended outcome

theorem verdict_isOpen (t : CycleTask) (c : AlertContext) (told : Except EvalError Outcome) :
    (t.verdict c told).isOpen = true := by
  unfold verdict
  split
  · rfl
  · split
    · rfl
    · rfl

theorem CanEnd.of_deadline (last : State) (hs : t.step? s .deadline = some last) :
    t.CanEnd s := by
  refine ⟨[.deadline], last, _, fun e he => ?_, ?_, step?_deadline hs⟩
  · exact Or.inr (Or.inr (List.mem_singleton.mp he))
  · rw [steps?_cons, hs]
    rfl

theorem CanEnd.of_step {e : Event} (he : e = .popSlot ∨ e = .send) (hs : t.step? s e = some s')
    (hend : t.CanEnd s') : t.CanEnd s := by
  obtain ⟨own, last, outcome, hown, hlast, hended⟩ := hend
  refine ⟨e :: own, last, outcome, fun d hd => ?_, ?_, hended⟩
  · rcases List.mem_cons.mp hd with rfl | hd
    · exact he.imp id Or.inl
    · exact hown d hd
  · rw [steps?_cons, hs]
    exact hlast

/-- A handle whose job has an answer can be let go of. -/
theorem conclude_ok {c : AlertContext} {k : Nat} {a : Pool.Answer} {rest : List Pool.Answer}
    {slot : Pool.Slot} {state : Pool.SlotState} (hanswers : s.pool.answers = a :: rest)
    (hholding : s.pool.holding? k = some (.held slot state)) :
    ∃ s', t.conclude c k s = some s' := by
  obtain ⟨q, hq⟩ := Pool.dropHandle_ok hholding
  unfold conclude
  rw [hanswers, hq]
  exact ⟨_, rfl⟩

/-- Once a job is sent the cycle waits, or it has been told already. -/
theorem isOpen_of_send (hs : t.step? s .send = some s') : s'.stage.isOpen = true := by
  obtain ⟨c, k, q, -, -, ⟨slot, -, hs⟩ | ⟨-, rfl⟩⟩ := send_cases hs
  · obtain ⟨a, rest, q, -, -, rfl⟩ := conclude_cases hs
    exact t.verdict_isOpen c _
  · rfl

end CycleTask

namespace Cycle.Sound

variable {i : Interpreter}

/-- The deadline can pass wherever a cycle waits. -/
theorem canEnd_of_isOpen (h : Sound i t s) (hopen : s.stage.isOpen = true) : t.CanEnd s := by
  have hfacts := h.stage
  cases hstage : s.stage with
  | permitted c k =>
      rw [hstage] at hopen
      cases hopen
  | seated c k =>
      rw [hstage] at hopen
      cases hopen
  | ended outcome => exact ⟨[], s, outcome, fun e he => (by cases he), rfl, hstage⟩
  | judging c k =>
      rw [hstage] at hfacts
      obtain ⟨-, -, slot, j, job, hholding, -, -⟩ := hfacts
      obtain ⟨q, hq⟩ := Pool.dropHandle_ok hholding
      refine .of_deadline { s with pool := q, stage := t.late } ?_
      simp [CycleTask.step?, CycleTask.deadline, hstage, hq, CycleTask.late]
  | asking =>
      refine .of_deadline { s with stage := t.late } ?_
      simp [CycleTask.step?, CycleTask.deadline, hstage, CycleTask.late]
  | queueing c =>
      refine .of_deadline { s with stage := t.late } ?_
      simp [CycleTask.step?, CycleTask.deadline, hstage, CycleTask.late]
  | acting c stages =>
      refine .of_deadline { s with stage := t.late } ?_
      simp [CycleTask.step?, CycleTask.deadline, hstage, CycleTask.late]

/-- A cycle that has a slot can send its job. -/
theorem canEnd_of_seated (h : Sound i t s) {c : AlertContext} {k : Nat}
    (hstage : s.stage = .seated c k) : t.CanEnd s := by
  have hfacts := h.stage
  rw [hstage] at hfacts
  obtain ⟨-, -, slot, hholding⟩ := hfacts
  obtain ⟨n, hc⟩ := h.pool.conserved
  obtain ⟨q, hq⟩ := h.pool.staffed.send_ok hholding (t.request c)
  obtain ⟨s', hs⟩ : ∃ s', t.step? s .send = some s' := by
    obtain ⟨slot', w, hholding', -, ⟨-, hgone⟩ | ⟨-, hrunning⟩⟩ := Pool.send_cases hq
    · have hdead : q.holding? k = some (.held slot' .dead) := by
        rw [hgone]
        exact Pool.holding_hold hc.nodup hholding'
      have hanswers : q.answers
          = ⟨s.pool.jobs.size, .error (.gone slot'.id)⟩ :: s.pool.answers := by
        rw [hgone]
        rfl
      obtain ⟨s', hs'⟩ := CycleTask.conclude_ok (t := t) (c := c)
        (s := { s with pool := q, job := some s.pool.jobs.size }) hanswers hdead
      rw [hstage] at hs'
      refine ⟨s', ?_⟩
      simp [CycleTask.step?, CycleTask.send, hstage, hq, hdead, hs']
    · have hwaits : q.holding? k = some (.held slot' (.running s.pool.jobs.size)) := by
        rw [hrunning]
        exact Pool.holding_hold hc.nodup hholding'
      refine ⟨{ s with pool := q, job := some s.pool.jobs.size, stage := .judging c k }, ?_⟩
      simp [CycleTask.step?, CycleTask.send, hstage, hq, hwaits]
  exact .of_step (Or.inr rfl) hs ((h.step? hs).canEnd_of_isOpen (CycleTask.isOpen_of_send hs))

/-- **A cycle can end from every state that it can be in**, and needs nobody else for it. -/
theorem canEnd (h : Sound i t s) : t.CanEnd s := by
  cases hstage : s.stage with
  | permitted c k =>
      have hfacts := h.stage
      rw [hstage] at hfacts
      obtain ⟨-, -, hholding⟩ := hfacts
      obtain ⟨n, hc⟩ := h.pool.conserved
      obtain ⟨q, slot, hq, hseated⟩ := hc.popSlot_ok hholding
      have hs : t.step? s .popSlot = some { s with pool := q, stage := .seated c k } := by
        simp [CycleTask.step?, CycleTask.popSlot, hstage, hq, hseated]
      exact .of_step (Or.inl rfl) hs ((h.step? hs).canEnd_of_seated rfl)
  | seated c k => exact h.canEnd_of_seated hstage
  | _ => exact h.canEnd_of_isOpen (by rw [hstage]; rfl)

end Cycle.Sound

end Lookout
