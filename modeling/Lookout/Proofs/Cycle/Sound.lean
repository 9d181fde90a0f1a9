/-
What is known about a cycle at every point of its way.

The facts that a cycle collects on its way are what its query came to, what it was told about
its condition, and what its actions sent and wrote.  `Sound` says how they depend on each other
and on where the cycle is: there is a job only behind a query that succeeded, there is something
sent or written only behind a condition that holds, and a cycle that has ended by itself has
ended the way these facts say.  Every step of the cycle preserves this, and so does every step
that others take on the pool in between.
-/
import Lookout.Proofs.Cycle.Actions
import Lookout.Proofs.Cycle.Step
import Lookout.Proofs.Pool.Frame
import Lookout.Proofs.Pool.Isolation
import Lookout.Proofs.Pool.Staffed

namespace Lookout

open Script (Interpreter Outcome)
open Lookout.Cycle (Stage State Event ActionStage Progress)

/-- A state that a pool of some size can be in whose workers all start with an interpreter. -/
def Pool.Reachable (i : Interpreter) (p : Pool) : Prop :=
  ∃ size es, (Pool.new size i).steps? es = some p

namespace Pool.Reachable

variable {i : Interpreter} {p q : Pool}

theorem step (h : Reachable i p) {e : Pool.Event} (hs : p.step? e = some q) : Reachable i q := by
  obtain ⟨size, es, hes⟩ := h
  refine ⟨size, es ++ [e], ?_⟩
  rw [Pool.steps?_append, hes, Option.bind_some, Pool.steps?_cons, hs]
  rfl

theorem isolated (h : Reachable i p) : Pool.Isolated i p := by
  obtain ⟨size, es, hes⟩ := h
  exact Pool.isolated_of_steps? hes

theorem conserved (h : Reachable i p) : ∃ n, Pool.Conserved n p := by
  obtain ⟨size, es, hes⟩ := h
  exact ⟨size, Pool.conserved_of_steps? hes⟩

theorem staffed (h : Reachable i p) : Pool.Staffed p := by
  obtain ⟨size, es, hes⟩ := h
  exact Pool.staffed_of_steps? hes

end Pool.Reachable

namespace CycleTask

/-- The context that a condition runs against. -/
def context (t : CycleTask) (v : Value) : AlertContext :=
  ⟨t.alert.name, t.now, v⟩

/-- What the actions of a cycle come to. -/
def dispatch (t : CycleTask) (v : Value) (o : Outcome) : Dispatch :=
  t.dispatcher.dispatchAll t.net ((t.context v).withResult o.result) t.alert.actions

/-- How a cycle ends unless its deadline passes, from what its query came to and what it was
told about its condition. -/
def conclusion? (t : CycleTask) :
    Option (Except QueryError Value) → Option (Except EvalError Outcome) → Option CycleOutcome
  | some (.error e), _ => some (.failed (.query e))
  | some (.ok _), some (.error e) => some (.failed (.script e))
  | some (.ok v), some (.ok o) =>
    some (if o.matched then .matched (t.dispatch v o).report else .noMatch)
  | _, _ => none

variable {t : CycleTask} {v : Value} {o : Outcome}

theorem conclusion?_matched (h : o.matched = true) :
    t.conclusion? (some (.ok v)) (some (.ok o)) = some (.matched (t.dispatch v o).report) := by
  unfold conclusion?
  dsimp only
  rw [if_pos h]

theorem conclusion?_unmatched (h : o.matched = false) :
    t.conclusion? (some (.ok v)) (some (.ok o)) = some .noMatch := by
  unfold conclusion?
  dsimp only
  rw [if_neg (by rw [h]; exact Bool.false_ne_true)]

theorem verdict_matched {c : AlertContext} (h : o.matched = true) :
    t.verdict c (.ok o)
      = .acting (c.withResult o.result) (t.alert.actions.map fun _ => .due) := by
  unfold verdict
  dsimp only
  rw [if_pos h]

theorem verdict_unmatched {c : AlertContext} (h : o.matched = false) :
    t.verdict c (.ok o) = .ended .noMatch := by
  unfold verdict
  dsimp only
  rw [if_neg (by rw [h]; exact Bool.false_ne_true)]

end CycleTask

namespace Cycle

/-- What a caller was told is what its job comes to by itself, or that its worker is lost. -/
def Truthful (i : Interpreter) (request : EvalRequest) (told : Except EvalError Outcome) : Prop :=
  Pool.isLoss told = true ∨ ∀ slot, Pool.alone i slot request = .answered told

/-- The query succeeded, and this is the context of its result. -/
def Asked (t : CycleTask) (s : State) (c : AlertContext) : Prop :=
  ∃ v, s.answer = some (.ok v) ∧ c = t.context v

/-- What is known where a cycle is. -/
def StageFacts (t : CycleTask) (s : State) : Stage → Prop
  | .asking => s.answer = none ∧ s.told = none ∧ s.job = none
  | .queueing c => Asked t s c ∧ s.told = none
  | .permitted c h => Asked t s c ∧ s.told = none ∧ s.pool.holding? h = some .permitted
  | .seated c h =>
    Asked t s c ∧ s.told = none ∧ ∃ slot, s.pool.holding? h = some (.held slot .idle)
  | .judging c h =>
    Asked t s c ∧ s.told = none ∧ ∃ slot j job, s.pool.holding? h = some (.held slot (.running j)) ∧
      s.pool.jobs[j]? = some job ∧ job.request = t.request c
  | .acting c stages =>
    ∃ v o, s.answer = some (.ok v) ∧ s.told = some (.ok o) ∧ o.matched = true ∧
      c = (t.context v).withResult o.result ∧ Progress t c stages s.sent s.logs
  | .ended outcome =>
    outcome = .failed (.timeout t.timeout) ∨ (t.conclusion? s.answer s.told = some outcome ∧
      ∀ v o, s.answer = some (.ok v) → s.told = some (.ok o) → o.matched = true →
        s.sent.Perm (t.dispatch v o).requests ∧ s.logs.Perm (t.dispatch v o).logs)

/-- What is known about a cycle on a pool of one interpreter. -/
structure Sound (i : Interpreter) (t : CycleTask) (s : State) : Prop where
  pool : Pool.Reachable i s.pool
  /-- A job is sent only behind a query that succeeded. -/
  job : s.job.isSome = true → ∃ v, s.answer = some (.ok v)
  /-- What it was told is about its own condition and its own query. -/
  told : ∀ r, s.told = some r →
    ∃ v, s.answer = some (.ok v) ∧ Truthful i (t.request (t.context v)) r
  /-- Something is sent or written only behind a condition that holds. -/
  quiet : s.sent ≠ [] ∨ s.logs ≠ [] → ∃ o, s.told = some (.ok o) ∧ o.matched = true
  stage : StageFacts t s s.stage

variable {i : Interpreter} {t : CycleTask} {s s' : State} {p : Pool}

/-- As long as a cycle was not told that its condition holds, nothing is sent and nothing is
written. -/
theorem Sound.silent (h : Sound i t s)
    (hnone : ∀ o, s.told = some (.ok o) → o.matched = false) : s.sent = [] ∧ s.logs = [] := by
  have hquiet : ¬ (s.sent ≠ [] ∨ s.logs ≠ []) := by
    intro hloud
    obtain ⟨o, ho, hmatched⟩ := h.quiet hloud
    rw [hnone o ho] at hmatched
    cases hmatched
  exact ⟨not_not.mp fun hs => hquiet (Or.inl hs), not_not.mp fun hl => hquiet (Or.inr hl)⟩

theorem sound_start (hp : Pool.Reachable i p) : Sound i t (start p) where
  pool := hp
  job := fun h => by cases h
  told := fun r h => by cases h
  quiet := fun h => by
    rcases h with h | h
    · exact absurd rfl h
    · exact absurd rfl h
  stage := ⟨rfl, rfl, rfl⟩

namespace Sound

theorem answer (h : Sound i t s) {result : Except QueryError Value}
    (hs : t.step? s (.answer result) = some s') : Sound i t s' := by
  obtain ⟨hstage, rfl⟩ := CycleTask.answer_cases hs
  have hfacts := h.stage
  rw [hstage] at hfacts
  obtain ⟨-, htold, hjob⟩ := hfacts
  have hnotold : ∀ r, s.told ≠ some r := fun r hr => by rw [htold] at hr; cases hr
  refine ⟨h.pool, fun hj => ?_, fun r hr => absurd hr (hnotold r), h.quiet, ?_⟩
  · have hj : s.job.isSome = true := hj
    rw [hjob] at hj
    cases hj
  · cases result with
    | error e => exact Or.inr ⟨rfl, fun v o hv => by cases hv⟩
    | ok v => exact ⟨⟨v, rfl, rfl⟩, htold⟩

/-- Others may take any step on the pool that is not one of the cycle's own handle. -/
theorem elsewhere (h : Sound i t s) {e : Pool.Event}
    (hs : t.step? s (.elsewhere e) = some s') : Sound i t s' := by
  obtain ⟨q, hother, hq, rfl⟩ := CycleTask.elsewhere_cases hs
  obtain ⟨n, hc⟩ := h.pool.conserved
  have hkept : ∀ {k content}, s.stage.handle? = some k → s.pool.holding? k = some content →
      q.holding? k = some content := fun hk hholding =>
    hc.holding_step? hq hholding fun heq => hother _ heq hk
  refine ⟨h.pool.step hq, h.job, h.told, h.quiet, ?_⟩
  have hfacts := h.stage
  show StageFacts t _ s.stage
  cases hstage : s.stage with
  | asking => rw [hstage] at hfacts; exact hfacts
  | queueing c => rw [hstage] at hfacts; exact hfacts
  | permitted c k =>
      rw [hstage] at hfacts hkept
      obtain ⟨hasked, htold, hholding⟩ := hfacts
      exact ⟨hasked, htold, hkept rfl hholding⟩
  | seated c k =>
      rw [hstage] at hfacts hkept
      obtain ⟨hasked, htold, slot, hholding⟩ := hfacts
      exact ⟨hasked, htold, slot, hkept rfl hholding⟩
  | judging c k =>
      rw [hstage] at hfacts hkept
      obtain ⟨hasked, htold, slot, j, job, hholding, hjob, hrequest⟩ := hfacts
      obtain ⟨later, hlater, hsame⟩ := Pool.SameRequests.step? hq j job hjob
      exact ⟨hasked, htold, slot, j, later, hkept rfl hholding, hlater, hsame.trans hrequest⟩
  | acting c stages => rw [hstage] at hfacts; exact hfacts
  | ended outcome => rw [hstage] at hfacts; exact hfacts

/-! ### The way to an answer -/

theorem takePermit (h : Sound i t s) (hs : t.step? s .takePermit = some s') : Sound i t s' := by
  obtain ⟨c, q, hstage, hq, rfl⟩ := CycleTask.takePermit_cases hs
  have hfacts := h.stage
  rw [hstage] at hfacts
  obtain ⟨hasked, htold⟩ := hfacts
  have hholding : q.holding? s.pool.nextHandle = some .permitted := by
    obtain ⟨-, rfl⟩ := Pool.takePermit_cases hq
    exact List.lookup_cons_self
  exact ⟨h.pool.step (e := .takePermit) hq, h.job, h.told, h.quiet, hasked, htold, hholding⟩

/-- There is always a slot behind a permit. -/
theorem popSlot (h : Sound i t s) (hs : t.step? s .popSlot = some s') : Sound i t s' := by
  obtain ⟨c, k, q, hstage, hq, hcases⟩ := CycleTask.popSlot_cases hs
  have hfacts := h.stage
  rw [hstage] at hfacts
  obtain ⟨hasked, htold, hholding⟩ := hfacts
  obtain ⟨n, hc⟩ := h.pool.conserved
  obtain ⟨q', slot, hq', hseated⟩ := hc.popSlot_ok hholding
  rw [hq] at hq'
  cases hq'
  rcases hcases with ⟨hrefused, -⟩ | ⟨-, rfl⟩
  · rw [hseated] at hrefused
    cases hrefused
  · exact ⟨h.pool.step (e := .popSlot k) hq, h.job, h.told, h.quiet, hasked, htold, slot, hseated⟩

/-- A cycle that was told the truth about its condition goes on as it should. -/
theorem conclude (h : Sound i t s) {c : AlertContext} {k : Nat} (hasked : Asked t s c)
    (htold : s.told = none)
    (htruth : ∀ a rest, s.pool.answers = a :: rest → Truthful i (t.request c) a.outcome)
    (hs : t.conclude c k s = some s') : Sound i t s' := by
  obtain ⟨a, rest, q, hanswers, hq, rfl⟩ := CycleTask.conclude_cases hs
  obtain ⟨hsent, hlogs⟩ := h.silent fun o ho => by rw [htold] at ho; cases ho
  obtain ⟨v, hv, rfl⟩ := hasked
  refine ⟨h.pool.step (e := .dropHandle k) hq, h.job, ?_, ?_, ?_⟩
  · intro r hr
    cases hr
    exact ⟨v, hv, htruth a rest hanswers⟩
  · intro hloud
    rcases hloud with hloud | hloud
    · exact absurd hsent hloud
    · exact absurd hlogs hloud
  · show StageFacts t _ (t.verdict _ a.outcome)
    cases houtcome : a.outcome with
    | error e =>
        refine Or.inr ⟨?_, fun v o _ ho => by cases ho⟩
        rw [hv]
        rfl
    | ok o =>
        cases hmatched : o.matched with
        | true =>
            rw [CycleTask.verdict_matched hmatched, hsent, hlogs]
            exact ⟨v, o, hv, rfl, hmatched, rfl, .start t _⟩
        | false =>
            rw [CycleTask.verdict_unmatched hmatched]
            refine Or.inr ⟨?_, fun v o' _ ho' hmatched' => ?_⟩
            · rw [hv]
              exact CycleTask.conclusion?_unmatched hmatched
            · cases ho'
              rw [hmatched] at hmatched'
              cases hmatched'

theorem send (h : Sound i t s) (hs : t.step? s .send = some s') : Sound i t s' := by
  obtain ⟨c, k, q, hstage, hq, hcases⟩ := CycleTask.send_cases hs
  have hfacts := h.stage
  rw [hstage] at hfacts
  obtain ⟨hasked, htold, slot, hholding⟩ := hfacts
  obtain ⟨n, hc⟩ := h.pool.conserved
  have hreach : Pool.Reachable i q := h.pool.step (e := .send k (t.request c)) hq
  have hjob : (some s.pool.jobs.size).isSome = true → ∃ v, s.answer = some (.ok v) := by
    obtain ⟨v, hv, -⟩ := hasked
    exact fun _ => ⟨v, hv⟩
  obtain ⟨slot', w, hholding', -, hsent⟩ := Pool.send_cases hq
  obtain rfl : slot = slot' := by
    rw [hholding] at hholding'
    cases hholding'
    rfl
  rcases hsent with ⟨-, hgone⟩ | ⟨-, hrunning⟩
  · have hdead : q.holding? k = some (.held slot .dead) := by
      rw [hgone]
      exact Pool.holding_hold hc.nodup hholding
    have hanswers : q.answers = ⟨s.pool.jobs.size, .error (.gone slot.id)⟩ :: s.pool.answers := by
      rw [hgone]
      rfl
    rcases hcases with ⟨-, -, hs⟩ | ⟨halive, -⟩
    · have hsound : Sound i t { s with
          pool := q, job := some s.pool.jobs.size, stage := .queueing c } :=
        ⟨hreach, hjob, h.told, h.quiet, hasked, htold⟩
      refine conclude (s := { s with
        pool := q, job := some s.pool.jobs.size, stage := .queueing c }) hsound hasked htold ?_ hs
      intro a rest ha
      have ha : q.answers = a :: rest := ha
      rw [hanswers] at ha
      cases ha
      exact Or.inl rfl
    · exact absurd hdead (halive slot)
  · have hwaits : q.holding? k = some (.held slot (.running s.pool.jobs.size)) := by
      rw [hrunning]
      exact Pool.holding_hold hc.nodup hholding
    rcases hcases with ⟨slot', hdead, -⟩ | ⟨-, rfl⟩
    · rw [hwaits] at hdead
      cases hdead
    · refine ⟨hreach, hjob, h.told, h.quiet, hasked, htold, slot, _,
        ⟨t.request c, false, .waiting⟩, hwaits, ?_, rfl⟩
      rw [hrunning]
      exact Array.getElem?_push_size

/-- What a cycle receives is the answer to its own job. -/
theorem receive (h : Sound i t s) (hs : t.step? s .receive = some s') : Sound i t s' := by
  obtain ⟨c, k, q, hstage, hq, hs⟩ := CycleTask.receive_cases hs
  have hfacts := h.stage
  rw [hstage] at hfacts
  obtain ⟨hasked, htold, slot, j, job, hholding, hjob, hrequest⟩ := hfacts
  have hreach : Pool.Reachable i q := h.pool.step (e := .receive k) hq
  have hreceived : Sound i t { s with pool := q, stage := .queueing c } :=
    ⟨hreach, h.job, h.told, h.quiet, hasked, htold⟩
  refine conclude (s := { s with pool := q, stage := .queueing c }) hreceived hasked htold ?_ hs
  intro a rest ha
  have ha : q.answers = a :: rest := ha
  obtain ⟨job', hjob', htruth⟩ := hreach.isolated.answers a (by rw [ha]; exact List.mem_cons_self)
  -- the answer on top is the one just received, and it is about the job of the handle
  obtain ⟨slot', j', job'', hholding', hjob'', hcases⟩ := Pool.receive_cases hq
  have hrunning : j' = j := by
    rw [hholding] at hholding'
    cases hholding'
    rfl
  have hmine : a.job = j ∧ q.jobs = s.pool.jobs := by
    rcases hcases with ⟨o, -, rfl⟩ | ⟨o, -, rfl⟩ | ⟨-, rfl⟩
    · cases ha
      exact ⟨hrunning, rfl⟩
    · cases ha
      exact ⟨hrunning, rfl⟩
    · cases ha
      exact ⟨hrunning, rfl⟩
  obtain rfl : job' = job := by
    rw [hmine.1, hmine.2, hjob] at hjob'
    exact (Option.some.inj hjob').symm
  rw [hrequest] at htruth
  exact htruth

/-! ### The actions and the end -/

theorem beginAction (h : Sound i t s) {n : Nat} (hs : t.step? s (.beginAction n) = some s') :
    Sound i t s' := by
  obtain ⟨c, stages, a, hstage, ha, hdue, rfl⟩ := CycleTask.beginAction_cases hs
  have hfacts := h.stage
  rw [hstage] at hfacts
  obtain ⟨v, o, hv, ho, hmatched, rfl, hprogress⟩ := hfacts
  exact ⟨h.pool, h.job, h.told, fun _ => ⟨o, ho, hmatched⟩, v, o, hv, ho, hmatched, rfl,
    hprogress.beginAction ha hdue⟩

theorem endAction (h : Sound i t s) {n : Nat} (hs : t.step? s (.endAction n) = some s') :
    Sound i t s' := by
  obtain ⟨c, stages, a, hstage, ha, hbegun, rfl⟩ := CycleTask.endAction_cases hs
  have hfacts := h.stage
  rw [hstage] at hfacts
  obtain ⟨v, o, hv, ho, hmatched, rfl, hprogress⟩ := hfacts
  exact ⟨h.pool, h.job, h.told, h.quiet, v, o, hv, ho, hmatched, rfl,
    hprogress.endAction ha hbegun⟩

theorem report (h : Sound i t s) (hs : t.step? s .report = some s') : Sound i t s' := by
  obtain ⟨c, stages, outcomes, hstage, houtcomes, rfl⟩ := CycleTask.report_cases hs
  have hfacts := h.stage
  rw [hstage] at hfacts
  obtain ⟨v, o, hv, ho, hmatched, rfl, hprogress⟩ := hfacts
  obtain ⟨hreport, hsent, hlogs⟩ := hprogress.all houtcomes
  refine ⟨h.pool, h.job, h.told, h.quiet, Or.inr ⟨?_, fun v' o' hv' ho' _ => ?_⟩⟩
  · rw [hv, ho, CycleTask.conclusion?_matched hmatched, hreport]
    rfl
  · rw [hv] at hv'
    rw [ho] at ho'
    cases hv'
    cases ho'
    exact ⟨hsent, hlogs⟩

/-- The deadline may end a cycle wherever it waits, and changes none of the facts. -/
theorem deadline (h : Sound i t s) (hs : t.step? s .deadline = some s') : Sound i t s' := by
  obtain ⟨-, rfl | ⟨k, q, hq, rfl⟩⟩ := CycleTask.deadline_cases hs
  · exact ⟨h.pool, h.job, h.told, h.quiet, Or.inl rfl⟩
  · exact ⟨h.pool.step (e := .dropHandle k) hq, h.job, h.told, h.quiet, Or.inl rfl⟩

/-- Every step of a cycle keeps what is known about it. -/
theorem step? (h : Sound i t s) {e : Event} (hs : t.step? s e = some s') : Sound i t s' := by
  cases e with
  | answer result => exact h.answer hs
  | elsewhere e => exact h.elsewhere hs
  | takePermit => exact h.takePermit hs
  | popSlot => exact h.popSlot hs
  | send => exact h.send hs
  | receive => exact h.receive hs
  | beginAction n => exact h.beginAction hs
  | endAction n => exact h.endAction hs
  | report => exact h.report hs
  | deadline => exact h.deadline hs

/-- **What is known about a cycle is known along every run of it**, whatever others do on the
pool meanwhile. -/
theorem steps? : ∀ (es : List Event) {s s' : State}, Sound i t s → t.steps? s es = some s' →
    Sound i t s' := by
  intro es
  induction es with
  | nil =>
      intro s s' h hs
      cases hs
      exact h
  | cons e rest ih =>
      intro s s' h hs
      unfold CycleTask.steps? at hs
      split at hs
      · case _ mid hmid => exact ih (h.step? hmid) hs
      · cases hs

end Sound

/-- A cycle that starts on a pool in a state that it can be in. -/
theorem sound_of_steps? {es : List Event} (hp : Pool.Reachable i p)
    (hs : t.steps? (start p) es = some s) : Sound i t s :=
  Sound.steps? es (sound_start hp) hs

end Cycle

end Lookout
