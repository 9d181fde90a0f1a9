/-
The steps of a cycle that acts, and what happens behind them.

A step of a cycle lets an action end with the result that it has by itself.  That is no assumption
about actions that are under way together: whatever happens to them, step by step, the cycle can
do in its own steps, with the same requests and records and in the end with the same report.
-/
import Lookout.Proofs.Cycle.Gathered
import Lookout.Proofs.Cycle.Run

namespace Lookout

open Lookout.Cycle (ActionStage)

namespace Gathering

variable {t : CycleTask} {c : AlertContext} {q : Cycle.State} {s s' : State} {e : Event}
  {es : List Event} {stages : List ActionStage} {i : Nat} {a : Action}

/-- The actions of a cycle whose condition holds. -/
def ofCycle (t : CycleTask) (c : AlertContext) : Gathering :=
  ⟨t.dispatcher, t.net, c, t.alert.actions⟩

/-- A cycle has come as far with its actions, and has sent and written as much. -/
structure Follows (c : AlertContext) (q : Cycle.State) (s : State) : Prop where
  stage : q.stage = .acting c (s.stages.map Stage.coarse)
  sent : q.sent = s.sent
  logs : q.logs = s.logs

theorem cycle_begins (stage : q.stage = .acting c stages)
    (action : (ofCycle t c).actions[i]? = some a) (due : stages[i]? = some .due) :
    ∃ q', t.step? q (.beginAction i) = some q' ∧ q'.stage = .acting c (stages.set i .begun) ∧
      q'.sent = q.sent ++ ((ofCycle t c).alone a).requests ∧
      q'.logs = q.logs ++ ((ofCycle t c).alone a).logs := by
  have action : t.alert.actions[i]? = some a := action
  unfold CycleTask.step?
  simp only [stage]
  unfold CycleTask.beginAction
  simp only [action, due]
  exact ⟨_, rfl, rfl, rfl, rfl⟩

theorem cycle_ends (stage : q.stage = .acting c stages)
    (action : (ofCycle t c).actions[i]? = some a) (begun : stages[i]? = some .begun) :
    ∃ q', t.step? q (.endAction i) = some q' ∧
      q'.stage = .acting c (stages.set i (.done ((ofCycle t c).alone a).result)) ∧
      q'.sent = q.sent ∧ q'.logs = q.logs := by
  have action : t.alert.actions[i]? = some a := action
  unfold CycleTask.step?
  simp only [stage]
  unfold CycleTask.endAction
  simp only [action, begun]
  exact ⟨_, rfl, rfl, rfl, rfl⟩

/-- A step of actions that are under way together is a step or two of their cycle. -/
theorem Moves.cycle (moves : Moves (ofCycle t c) s e s') (reached : Reached (ofCycle t c) es s)
    (follows : Follows c q s) : ∃ fs q', t.steps? q fs = some q' ∧ Follows c q' s' := by
  cases moves with
  | @finished i a result logs action stage opens =>
      have alone := alone_of_opening opens
      have due := getElem?_coarse stage
      obtain ⟨p, begins, pstage, psent, plogs⟩ := cycle_begins follows.stage action due
      have bound := (List.getElem?_eq_some_iff.mp due).1
      obtain ⟨q', ends, qstage, qsent, qlogs⟩ :=
        cycle_ends pstage action (List.getElem?_set_self bound)
      rw [List.set_set, alone] at qstage
      rw [alone] at psent plogs
      refine ⟨[.beginAction i, .endAction i], q', ?_, ?_, ?_, ?_⟩
      · simp only [CycleTask.steps?, begins, ends]
      · rw [qstage, List.map_set]
        rfl
      · simp [qsent, psent, follows.sent, Dispatcher.closed]
      · simp [qlogs, plogs, follows.logs, Dispatcher.closed]
  | @asks i a request action stage opens =>
      have alone := alone_of_opening opens
      obtain ⟨p, begins, pstage, psent, plogs⟩ :=
        cycle_begins follows.stage action (getElem?_coarse stage)
      refine ⟨[.beginAction i], p, ?_, ?_, ?_, ?_⟩
      · simp only [CycleTask.steps?, begins]
      · rw [pstage, List.map_set]
        rfl
      · simp [psent, follows.sent, alone, Dispatcher.closed]
      · simp [plogs, follows.logs, alone, Dispatcher.closed]
  | @answered i a request action stage =>
      obtain ⟨p, ends, pstage, psent, plogs⟩ :=
        cycle_ends follows.stage action (getElem?_coarse stage)
      -- What came back for the request is what comes back for the action by itself.
      have came := (reached.step (.answered action stage)).came i a _ action
        (List.getElem?_set_self (List.getElem?_eq_some_iff.mp stage).1)
      refine ⟨[.endAction i], p, ?_, ?_, ?_, ?_⟩
      · simp only [CycleTask.steps?, ends]
      · rw [pstage, List.map_set, came.done.1]
        rfl
      · rw [psent, follows.sent]
      · rw [plogs, follows.logs]

/-- The cycle ends with the report of its actions once that is there. -/
theorem Follows.ends {report : DispatchReport} (follows : Follows c q s)
    (there : (ofCycle t c).report? s = some report) :
    t.step? q .report = some { q with stage := .ended (.matched report) } := by
  obtain ⟨outcomes, houtcomes, rfl⟩ := Option.map_eq_some_iff.mp there
  have houtcomes : Cycle.outcomes? 0 t.alert.actions (s.stages.map Stage.coarse) = some outcomes :=
    houtcomes
  unfold CycleTask.step?
  simp only [follows.stage, houtcomes]
  rfl

/-- What happens to actions that are under way together is a run of their cycle. -/
theorem steps_cycle : ∀ {fs es : List Event} {s : State} {q : Cycle.State},
    Reached (ofCycle t c) es s → (ofCycle t c).steps? s fs = some s' → Follows c q s →
      ∃ hs q', t.steps? q hs = some q' ∧ Follows c q' s' := by
  intro fs
  induction fs with
  | nil =>
      intro es s q _ run follows
      cases run
      exact ⟨[], q, rfl, follows⟩
  | cons e fs ih =>
      intro es s q reached run follows
      rw [steps?_cons] at run
      obtain ⟨next, taken, later⟩ := Option.bind_eq_some_iff.mp run
      have moves := moves_of_step? taken
      obtain ⟨first, p, hfirst, pfollows⟩ := moves.cycle reached follows
      obtain ⟨rest, q', hrest, qfollows⟩ := ih (reached.step moves) later pfollows
      refine ⟨first ++ rest, q', ?_, qfollows⟩
      rw [CycleTask.steps?_append, hfirst]
      exact hrest

/-- **Actions that are gathered are a cycle that ends with their report**, and has sent and written
what they have. -/
theorem Gathers.cycle {report : DispatchReport} (gathers : (ofCycle t c).Gathers es s report)
    (follows : Follows c q (ofCycle t c).start) :
    ∃ hs q', t.steps? q (hs ++ [.report]) = some q' ∧ q'.stage = .ended (.matched report) ∧
      q'.sent = s.sent ∧ q'.logs = s.logs := by
  obtain ⟨run, there⟩ := gathers
  obtain ⟨hs, p, hrun, pfollows⟩ := steps_cycle (Reached.start _) run follows
  refine ⟨hs, { p with stage := .ended (.matched report) }, ?_, rfl, pfollows.sent, pfollows.logs⟩
  rw [CycleTask.steps?_append, hrun, Option.bind_some, CycleTask.steps?_cons, pfollows.ends there]
  rfl

end Gathering

end Lookout
