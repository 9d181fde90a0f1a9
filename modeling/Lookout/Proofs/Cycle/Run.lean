/-
A cycle that has its pool for itself, as one of the runs of a cycle.

Running a cycle from its start to its end is a sequence of its steps: the pool takes the steps
of an evaluation, the actions begin one after the other and end one after the other, and where
the time is up the deadline passes.  So what is known about all runs of a cycle is known about
this one, and there is at least one run to every end.
-/
import Lookout.Proofs.Cycle.Sound
import Lookout.Proofs.Pool.Evaluate

namespace Lookout

open Script (Interpreter Outcome Trouble)
open Lookout.Cycle (Stage State Event ActionStage)
open Pool (Worker Slot AtRest Evaluation)

/-- What a caller was told about its job, if it waited long enough. -/
def Pool.Evaluation.told? : Pool.Evaluation → Option (Except EvalError Outcome)
  | answered told => some told
  | gaveUp => none

namespace CycleTask

variable {t : CycleTask} {s : State} {p : Pool} {c : AlertContext} {slot : Slot}
  {rest : List Slot}

theorem steps?_append (es fs : List Event) :
    ∀ s : State, t.steps? s (es ++ fs) = (t.steps? s es).bind fun s' => t.steps? s' fs := by
  induction es with
  | nil => exact fun _ => rfl
  | cons e rest ih =>
      intro s
      rw [List.cons_append, steps?_cons, steps?_cons]
      cases t.step? s e with
      | none => rfl
      | some s' => exact ih s'

theorem steps?_trans {es fs : List Event} {mid last : State} (hfirst : t.steps? s es = some mid)
    (hrest : t.steps? mid fs = some last) : t.steps? s (es ++ fs) = some last := by
  rw [steps?_append, hfirst]
  exact hrest

/-- A cycle that was told about its condition needs no handle any more. -/
theorem verdict_handle? (t : CycleTask) (c : AlertContext) (told : Except EvalError Outcome) :
    (t.verdict c told).handle? = none := by
  unfold verdict
  split
  · rfl
  · split
    · rfl
    · rfl

theorem judging_handle? (c : AlertContext) (h : Nat) : (Stage.judging c h).handle? = some h := rfl

/-! ### The condition -/

/-- A cycle that wants a slot of a pool at rest has its job begun. -/
theorem steps_to_judging (hpermits : 0 < p.permits) (hhandles : p.handles = [])
    (hfree : p.free = slot :: rest) (hw : p.workers[slot.worker]? = some (Worker.new p.fresh))
    (hpool : s.pool = p) (hstage : s.stage = .queueing c) :
    t.steps? s [.takePermit, .popSlot, .send, .elsewhere (.start slot.worker)] = some { s with
      pool := p.begun slot rest (t.request c)
      job := some p.jobs.size
      stage := .judging c p.nextHandle } := by
  obtain ⟨hlt, -⟩ := Array.getElem?_eq_some_iff.mp hw
  have hw' : (p.workers.setIfInBounds slot.worker
      ⟨p.fresh, [p.jobs.size], none, .working⟩)[slot.worker]?
        = some ⟨p.fresh, [p.jobs.size], none, .working⟩ :=
    Array.getElem?_setIfInBounds_self_of_lt hlt
  simp [steps?, step?, hstage, hpool, Pool.takePermit, popSlot, send, Pool.popSlot, Pool.send,
    Pool.holding?, Pool.hold, hhandles, hfree, Nat.ne_of_gt hpermits, hw, Pool.modifyWorker,
    modify_eq_set _ hw, Worker.new, Pool.step?, Pool.start, hw', modify_eq_set _ hw', Pool.begun,
    Pool.Event.handle?, Stage.handle?]

section Judging

variable (hw : p.workers[slot.worker]? = some (Worker.new p.fresh))
  (hpool : s.pool = p.begun slot rest (t.request c)) (hstage : s.stage = .judging c p.nextHandle)
include hw hpool hstage

/-- A cycle whose worker dies in its job. -/
theorem steps_death : t.steps? s
      [.elsewhere (.die slot.worker), .elsewhere (.uncount slot.worker),
        .elsewhere (.closeQueue slot.worker), .receive, .elsewhere (.returnPermit p.nextHandle)]
    = some { s with
        pool := { p with
          permits := p.permits - 1 + 1
          free := ⟨slot.id, p.workers.size⟩ :: rest
          live := p.live - 1 + 1
          workers := (p.workers.setIfInBounds slot.worker ⟨p.fresh, [], none, .gone⟩).push
            (Worker.new p.fresh)
          jobs := p.jobs.push ⟨t.request c, false, .closed⟩
          handles := []
          nextHandle := p.nextHandle + 1
          answers := ⟨p.jobs.size, .error (.stopped slot.id)⟩ :: p.answers }
        told := some (.error (.stopped slot.id))
        stage := .ended (.failed (.script (.stopped slot.id))) } := by
  have hlt := (Array.getElem?_eq_some_iff.mp hw).1
  have hset : ∀ k : Worker, (p.workers.setIfInBounds slot.worker k)[slot.worker]? = some k :=
    fun k => Array.getElem?_setIfInBounds_self_of_lt hlt
  simp [steps?, step?, hstage, hpool, conclude, verdict, Pool.step?, Pool.die, Pool.uncount,
    Pool.closeQueue, Pool.receive, Pool.dropHandle, Pool.returnPermit, Pool.begun, Pool.holding?,
    Pool.hold, Pool.modifyWorker, Pool.modifyJob, hset, modify_eq_set _ (hset _), modify_push,
    Array.setIfInBounds_setIfInBounds, Pool.Event.handle?, Stage.handle?]

/-- A cycle whose worker answers. -/
theorem steps_answered {result : Except Trouble Outcome × Interpreter}
    (hrun : p.fresh.run none (t.request c).script (t.request c).context = result)
    (halive : Pool.isDeath result.1 = false) : t.steps? s
      [.elsewhere (.finish slot.worker none), .receive, .elsewhere (.returnPermit p.nextHandle)]
    = some { s with
        pool := { p with
          permits := p.permits - 1 + 1
          free := slot :: rest
          jobs := p.jobs.push ⟨t.request c, false, .answered result.1⟩
          handles := []
          nextHandle := p.nextHandle + 1
          answers := ⟨p.jobs.size, result.1.mapError .trouble⟩ :: p.answers }
        told := some (result.1.mapError .trouble)
        stage := t.verdict c (result.1.mapError .trouble) } := by
  have hkept : result.2 = p.fresh := by
    rw [← hrun]
    exact p.fresh.run_snd none _ _
  have hfinish : (p.begun slot rest (t.request c)).finish slot.worker none
      = some { p.begun slot rest (t.request c) with
          workers := p.workers
          jobs := p.jobs.push ⟨t.request c, false, .answered result.1⟩ } := by
    unfold Pool.finish
    rw [Pool.runOf_begun hw, hrun]
    dsimp only
    rw [halive, Pool.reply_begun hw hkept]
    rfl
  dsimp only [Pool.begun] at hfinish
  cases houtcome : result.1 with
  | ok o =>
      rw [houtcome] at hfinish
      simp [steps?, step?, hstage, hpool, conclude, Pool.step?, hfinish, Pool.receive,
        Pool.dropHandle, Pool.returnPermit, Pool.begun, Pool.holding?, Pool.hold,
        Except.mapError, Pool.Event.handle?, verdict_handle?, judging_handle?]
  | error e =>
      rw [houtcome] at hfinish
      simp [steps?, step?, hstage, hpool, conclude, Pool.step?, hfinish, Pool.receive,
        Pool.dropHandle, Pool.returnPermit, Pool.begun, Pool.holding?, Pool.hold,
        Except.mapError, Pool.Event.handle?, verdict_handle?, judging_handle?]

/-- A cycle whose deadline passes while its condition runs. -/
theorem steps_gaveUp {n : Option Nat} {result : Except Trouble Outcome × Interpreter}
    (hrun : p.fresh.run n (t.request c).script (t.request c).context = result)
    (hcancelled : result.1 = .error .cancelled) : t.steps? s
      [.deadline, .elsewhere (.returnPermit p.nextHandle), .elsewhere (.finish slot.worker n)]
    = some { s with
        pool := { p with
          permits := p.permits - 1 + 1
          free := slot :: rest
          jobs := p.jobs.push ⟨t.request c, true, .answered result.1⟩
          handles := []
          nextHandle := p.nextHandle + 1 }
        stage := .ended (.failed (.timeout t.timeout)) } := by
  have hkept : (p.fresh.run n (t.request c).script (t.request c).context).2 = p.fresh :=
    p.fresh.run_snd n _ _
  rw [hrun] at hkept
  obtain ⟨hlt, -⟩ := Array.getElem?_eq_some_iff.mp hw
  have hw' : ∀ k : Worker, (p.workers.setIfInBounds slot.worker k)[slot.worker]? = some k :=
    fun k => Array.getElem?_setIfInBounds_self_of_lt hlt
  have hrestored : p.workers.setIfInBounds slot.worker ⟨p.fresh, [], none, .working⟩
      = p.workers := set_self hw
  simp [steps?, step?, hstage, hpool, deadline, Pool.step?, Pool.finish, Pool.runOf,
    Pool.dropHandle, Pool.returnPermit, Pool.begun, Pool.holding?, Pool.hold, Pool.reply,
    Pool.modifyWorker, Pool.modifyJob, Pool.isDeath, hw', hrun, hkept, hcancelled,
    modify_eq_set _ (hw' _), modify_push, Array.setIfInBounds_setIfInBounds, hrestored,
    Pool.Event.handle?, Stage.handle?]

end Judging

/-! ### The actions -/

/-- The actions that are still due begin one after the other. -/
theorem steps_begin (t : CycleTask) (c : AlertContext) : ∀ (todo begun : List Action) (s : State),
    t.alert.actions = begun ++ todo →
    s.stage = .acting c (begun.map (fun _ => .begun) ++ todo.map fun _ => .due) →
    ∃ es, t.steps? s es = some { s with
      stage := .acting c (t.alert.actions.map fun _ => .begun)
      sent := s.sent ++ (todo.map (t.dispatcher.dispatch t.net c)).flatMap (·.requests)
      logs := s.logs ++ (todo.map (t.dispatcher.dispatch t.net c)).flatMap (·.logs) } := by
  intro todo
  induction todo with
  | nil =>
      intro begun s hactions hstage
      refine ⟨[], ?_⟩
      rw [List.map_nil, List.append_nil] at hstage
      rw [hactions, List.append_nil, ← hstage]
      simp [steps?]
  | cons a as ih =>
      intro begun s hactions hstage
      have hmore : t.alert.actions = (begun ++ [a]) ++ as := by
        rw [hactions, List.append_assoc]
        rfl
      obtain ⟨next, hbegin, hnext⟩ : ∃ next, t.step? s (.beginAction begun.length) = some next ∧
          next = { s with
            stage := .acting c ((begun ++ [a]).map (fun _ => .begun) ++ as.map fun _ => .due)
            sent := s.sent ++ (t.dispatcher.dispatch t.net c a).requests
            logs := s.logs ++ (t.dispatcher.dispatch t.net c a).logs } := by
        refine ⟨_, ?_, rfl⟩
        simp [step?, hstage, beginAction, hactions]
      obtain ⟨es, hes⟩ := ih (begun ++ [a]) next hmore (by rw [hnext])
      refine ⟨.beginAction begun.length :: es, ?_⟩
      rw [steps?_cons, hbegin, Option.bind_some, hes, hnext]
      simp

/-- The actions that have begun end one after the other. -/
theorem steps_end (t : CycleTask) (c : AlertContext) : ∀ (todo done : List Action) (s : State),
    t.alert.actions = done ++ todo →
    s.stage = .acting c (done.map (fun a => .done (t.dispatcher.dispatch t.net c a).result)
      ++ todo.map fun _ => .begun) →
    ∃ es, t.steps? s es = some { s with
      stage := .acting c (t.alert.actions.map fun a =>
        .done (t.dispatcher.dispatch t.net c a).result) } := by
  intro todo
  induction todo with
  | nil =>
      intro done s hactions hstage
      refine ⟨[], ?_⟩
      rw [List.map_nil, List.append_nil] at hstage
      rw [hactions, List.append_nil, ← hstage]
      rfl
  | cons a as ih =>
      intro done s hactions hstage
      have hmore : t.alert.actions = (done ++ [a]) ++ as := by
        rw [hactions, List.append_assoc]
        rfl
      obtain ⟨next, hend, hnext⟩ : ∃ next, t.step? s (.endAction done.length) = some next ∧
          next = { s with
            stage := .acting c ((done ++ [a]).map
              (fun a => .done (t.dispatcher.dispatch t.net c a).result)
                ++ as.map fun _ => .begun) } := by
        refine ⟨_, ?_, rfl⟩
        simp [step?, hstage, endAction, hactions]
      obtain ⟨es, hes⟩ := ih (done ++ [a]) next hmore (by rw [hnext])
      exact ⟨.endAction done.length :: es, by
        rw [steps?_cons, hend, Option.bind_some, hes, hnext]⟩

theorem outcomes?_done (d : Dispatcher) (net : Network) (c : AlertContext) :
    ∀ (actions : List Action) (index : Nat),
      Cycle.outcomes? index actions (actions.map fun a => .done (d.dispatch net c a).result)
        = some (d.outcomes net c index actions) := by
  intro actions
  induction actions with
  | nil => exact fun _ => rfl
  | cons a as ih =>
      intro index
      simp [Cycle.outcomes?, ActionStage.result?, ih, Dispatcher.outcomes]

/-- The actions of a cycle begin and end, all of them. -/
theorem steps_acting (hstage : s.stage = .acting c (t.alert.actions.map fun _ => .due)) :
    ∃ es, t.steps? s es = some { s with
      stage := .acting c (t.alert.actions.map fun a =>
        .done (t.dispatcher.dispatch t.net c a).result)
      sent := s.sent ++ (t.dispatcher.dispatchAll t.net c t.alert.actions).requests
      logs := s.logs ++ (t.dispatcher.dispatchAll t.net c t.alert.actions).logs } := by
  obtain ⟨es, hes⟩ := t.steps_begin c t.alert.actions [] s rfl hstage
  obtain ⟨fs, hfs⟩ := t.steps_end c t.alert.actions []
    { s with
      stage := .acting c (t.alert.actions.map fun _ => .begun)
      sent := s.sent ++ (t.dispatcher.dispatchAll t.net c t.alert.actions).requests
      logs := s.logs ++ (t.dispatcher.dispatchAll t.net c t.alert.actions).logs } rfl rfl
  exact ⟨es ++ fs, steps?_trans hes hfs⟩

/-- Once all actions have ended the cycle has. -/
theorem steps_report (hstage : s.stage = .acting c (t.alert.actions.map fun a =>
      .done (t.dispatcher.dispatch t.net c a).result)) :
    t.steps? s [.report] = some { s with
      stage := .ended (.matched (t.dispatcher.dispatchAll t.net c t.alert.actions).report) } := by
  simp [steps?, step?, hstage, outcomes?_done, Dispatcher.dispatchAll]

/-- The deadline can pass while actions are on their way. -/
theorem steps_late {stages : List ActionStage} (hstage : s.stage = .acting c stages) :
    t.steps? s [.deadline] = some { s with stage := .ended (.failed (.timeout t.timeout)) } := by
  simp [steps?, step?, deadline, hstage]

/-! ### From the start to the end -/

/-- Where a cycle is once an evaluation of its condition is over. -/
def AtVerdict (t : CycleTask) (c : AlertContext) (s : State) : Evaluation → Prop
  | .gaveUp => s.told = none ∧ s.stage = .ended (.failed (.timeout t.timeout))
  | .answered r => s.told = some r ∧ s.stage = t.verdict c r

/-- An evaluation of the condition, on a pool at rest or on one without a free slot. -/
theorem steps_condition {i : Interpreter} {top : Nat} (hfree : AtRest i top p ∨ p.permits = 0)
    (patience : Option Nat) (hpool : s.pool = p) (hstage : s.stage = .queueing c)
    (hnone : s.told = none) :
    ∃ es s', t.steps? s es = some s' ∧ s'.answer = s.answer ∧ s'.sent = s.sent ∧
      s'.logs = s.logs ∧ s'.pool = (p.evaluate patience (t.request c)).2 ∧
      t.AtVerdict c s' (p.evaluate patience (t.request c)).1 := by
  rcases hfree with hrest | hfull
  · obtain ⟨slot, rest, hslots, -, hw⟩ := hrest.exists_top
    have hjudging := steps_to_judging (t := t) hrest.permits hrest.handles hslots hw hpool hstage
    rw [Pool.evaluate_eq_conclude hrest.permits hrest.handles hslots hw]
    have hkept := p.fresh.run_snd patience (t.request c).script (t.request c).context
    by_cases hdead : (p.fresh.run patience (t.request c).script (t.request c).context).1
        = .error .died
    · rw [Pool.conclude_death hw hdead]
      have hend := steps_death (t := t) (c := c) hw (s := { s with
        pool := p.begun slot rest (t.request c)
        job := some p.jobs.size
        stage := .judging c p.nextHandle }) rfl rfl
      exact ⟨_, _, steps?_trans hjudging hend, rfl, rfl, rfl, rfl, rfl, rfl⟩
    by_cases hcancelled : (p.fresh.run patience (t.request c).script (t.request c).context).1
        = .error .cancelled
    · rw [Pool.conclude_cancelled hw hkept hcancelled]
      have hend := steps_gaveUp (t := t) (c := c) hw (s := { s with
        pool := p.begun slot rest (t.request c)
        job := some p.jobs.size
        stage := .judging c p.nextHandle }) rfl rfl rfl hcancelled
      exact ⟨_, _, steps?_trans hjudging hend, rfl, rfl, rfl, rfl, hnone, rfl⟩
    · have halive := Pool.isDeath_eq_false hdead
      rw [Pool.conclude_answer hw hkept halive hcancelled]
      have hfull := p.fresh.run_of_not_cancelled hcancelled
      have hend := steps_answered (t := t) (c := c) hw (s := { s with
        pool := p.begun slot rest (t.request c)
        job := some p.jobs.size
        stage := .judging c p.nextHandle }) rfl rfl hfull.symm halive
      exact ⟨_, _, steps?_trans hjudging hend, rfl, rfl, rfl, rfl, rfl, rfl⟩
  · rw [Pool.evaluate_full hfull]
    refine ⟨[.deadline], { s with stage := .ended (.failed (.timeout t.timeout)) }, ?_, rfl, rfl,
      rfl, hpool, hnone, rfl⟩
    simp [steps?, step?, deadline, hstage]

end CycleTask

namespace CycleRunner

/-- What a cycle of a runner is about. -/
def task (r : CycleRunner) (net : Network) (now : Nat) (alert : AlertDefinition) : CycleTask where
  alert := alert
  now := now
  dispatcher := r.dispatcher
  net := net
  timeout := r.timeout

/-- A cycle on its way that has come to what a cycle comes to that is run from start to end. -/
structure SameEnd (query : QueryRun) (s : State) (run : CycleRun) : Prop where
  outcome : s.stage = .ended run.outcome
  pool : s.pool = run.pool
  answer : ∀ v, s.answer = some v → v = query.result
  told : s.told = run.condition.bind Evaluation.told?
  requests : run.requests = query.requests ++ s.sent
  logs : run.logs = s.logs

variable {i : Interpreter} {top : Nat} {s : State}

/-- The condition and what follows from it. -/
theorem steps_judge (r : CycleRunner) (net : Network) (now : Nat) (alert : AlertDefinition)
    (query : QueryRun) (hfree : AtRest i top r.pool ∨ r.pool.permits = 0) {v : Value}
    (hpool : s.pool = r.pool)
    (hstage : s.stage = .queueing ⟨alert.name, now, v⟩) (hanswer : s.answer = some query.result)
    (htold : s.told = none) (hsent : s.sent = []) (hlogs : s.logs = []) :
    ∃ es s', (r.task net now alert).steps? s es = some s' ∧
      SameEnd query s' (r.judge net alert ⟨alert.name, now, v⟩ query) := by
  obtain ⟨es, s', hes, hanswer', hsent', hlogs', hpool', hverdict⟩ :=
    CycleTask.steps_condition (t := r.task net now alert) hfree r.patience hpool hstage htold
  rw [hanswer] at hanswer'
  rw [hsent] at hsent'
  rw [hlogs] at hlogs'
  have hquery : ∀ v, s'.answer = some v → v = query.result := by
    intro v hv
    rw [hanswer'] at hv
    exact (Option.some.inj hv).symm
  have hrequest : (r.task net now alert).request ⟨alert.name, now, v⟩
      = ⟨alert.condition, ⟨alert.name, now, v⟩⟩ := rfl
  rw [hrequest] at hpool' hverdict
  unfold judge
  dsimp only
  cases heval : (r.pool.evaluate r.patience ⟨alert.condition, ⟨alert.name, now, v⟩⟩).1 with
  | gaveUp =>
      rw [heval] at hverdict
      obtain ⟨hnone, hended⟩ := hverdict
      refine ⟨es, s', hes, hended, hpool', hquery, ?_, ?_, hlogs'.symm⟩
      · rw [hnone]
        show none = (some (r.pool.evaluate r.patience _).1).bind _
        rw [heval]
        rfl
      · rw [hsent', List.append_nil]
        rfl
  | answered told =>
      rw [heval] at hverdict
      obtain ⟨hsome, hended⟩ := hverdict
      have hcondition : s'.told = (some (r.pool.evaluate r.patience
          ⟨alert.condition, ⟨alert.name, now, v⟩⟩).1).bind Evaluation.told? := by
        rw [hsome, heval]
        rfl
      cases told with
      | error e =>
          refine ⟨es, s', hes, hended, hpool', hquery, hcondition, ?_, hlogs'.symm⟩
          rw [hsent', List.append_nil]
          rfl
      | ok o =>
          dsimp only
          cases hmatched : o.matched with
          | false =>
              rw [CycleTask.verdict_unmatched hmatched] at hended
              rw [if_neg Bool.false_ne_true]
              refine ⟨es, s', hes, hended, hpool', hquery, hcondition, ?_, hlogs'.symm⟩
              rw [hsent', List.append_nil]
              rfl
          | true =>
              rw [CycleTask.verdict_matched hmatched] at hended
              rw [if_pos rfl]
              obtain ⟨fs, hfs⟩ := CycleTask.steps_acting hended
              rw [hsent', hlogs', List.nil_append, List.nil_append] at hfs
              unfold act
              dsimp only
              split
              · have hlate := CycleTask.steps?_trans hes
                  (CycleTask.steps?_trans hfs (CycleTask.steps_late rfl))
                exact ⟨es ++ (fs ++ [.deadline]), { s' with
                  stage := .ended (.failed (.timeout r.timeout))
                  sent := _
                  logs := _ }, hlate, rfl, hpool', hquery, hcondition, rfl, rfl⟩
              · have hdone := CycleTask.steps?_trans hes
                  (CycleTask.steps?_trans hfs (CycleTask.steps_report rfl))
                exact ⟨es ++ (fs ++ [.report]), { s' with
                  stage := .ended (.matched _)
                  sent := _
                  logs := _ }, hdone, rfl, hpool', hquery, hcondition, rfl, rfl⟩

/-- **A cycle that is run from its start to its end is one of the runs of its steps**, on a pool
that nobody else uses meanwhile or that has no slot left. -/
theorem run_is_steps (r : CycleRunner) (net : Network) (now : Nat) (alert : AlertDefinition)
    (hfree : (∃ i top, AtRest i top r.pool) ∨ r.pool.permits = 0) :
    ∃ es s, (r.task net now alert).steps? (Cycle.start r.pool) es = some s ∧
      SameEnd (r.search alert.search) s (r.run net now alert) := by
  obtain ⟨i, top, hfree⟩ : ∃ i top, AtRest i top r.pool ∨ r.pool.permits = 0 := by
    rcases hfree with ⟨i, top, hrest⟩ | hfull
    · exact ⟨i, top, Or.inl hrest⟩
    · exact ⟨Interpreter.bare, 0, Or.inr hfull⟩
  unfold run
  dsimp only
  split
  · exact ⟨[.deadline], _, rfl, rfl, rfl, fun v hv => (by cases hv), rfl,
      (List.append_nil _).symm, rfl⟩
  · cases hresult : (r.search alert.search).result with
    | error e =>
        refine ⟨[.answer (.error e)], _, rfl, rfl, rfl, fun v hv => ?_, rfl,
          (List.append_nil _).symm, rfl⟩
        cases hv
        exact hresult.symm
    | ok v =>
        obtain ⟨es, s, hes, hend⟩ := steps_judge r net now alert (r.search alert.search) hfree
          (v := v) (s := { Cycle.start r.pool with
            answer := some (.ok v)
            stage := .queueing ⟨alert.name, now, v⟩ })
          rfl rfl (by rw [hresult]) rfl rfl rfl
        exact ⟨.answer (.ok v) :: es, s, hes, hend⟩

end CycleRunner

end Lookout
