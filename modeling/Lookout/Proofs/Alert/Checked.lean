/-
What the loading of an alert has checked cannot fail when the alert runs.

Three things are looked at twice.  The condition is read as a script when the alert is built, and
again by the worker that runs it.  The method of a request is looked at when the action is decoded,
in the upper case in which it is kept, and again when the request is made.  The interval is
compared with zero when the alert is built, and is asked for by the ticker of its task.  What is
kept of each is what was looked at, so the second look never finds a fault: that is `Checked`, and
what follows from it for a cycle is `Cleared`.
-/
import Lookout.Proofs.Action.Grammar
import Lookout.Proofs.Alert.Loading
import Lookout.Proofs.Cycle.Verdict
import Lookout.Schedule.Alerts

namespace Lookout

open Script (Interpreter Outcome Trouble SyntaxFault)
open Lookout.Cycle (State Event)
open Pool (AtRest Evaluation)

/-- What the loading has checked of an alert. -/
structure AlertDefinition.Checked (a : AlertDefinition) : Prop where
  condition : ∃ statements, Script.parse a.condition = .ok statements
  methods : ∀ request, .http request ∈ a.actions → isToken request.method = true
  interval : 0 < a.intervalSecs

/-! ### Loading -/

namespace Action

/-- The method of a request that was decoded is a token, in the case in which it is kept. -/
theorem isToken_of_decode {v : Value} {request : HttpAction} (h : decode v = .ok (.http request)) :
    isToken request.method = true := by
  have normal := normal_of_describes (decode_eq_ok_iff.mp h)
  exact normal.2.1

end Action

theorem RawAlert.checked_of_toDefinition {r : RawAlert} {a : AlertDefinition}
    (h : r.toDefinition = .ok a) : a.Checked := by
  obtain ⟨actions, hactions, h⟩ := bind_eq_ok h
  have hbuild : AlertDefinition.build (r.parts actions) = .ok a := mapError_eq_ok.mp h
  obtain ⟨hbuildable, rfl⟩ := AlertDefinition.build_eq_ok.mp hbuild
  refine ⟨hbuildable.readable, fun request hrequest => ?_, hbuildable.interval⟩
  have hmem : Except.ok (Action.http request) ∈ r.actions.map Action.decode := by
    rw [decodeActions_eq_ok hactions]
    exact List.mem_map_of_mem hrequest
  obtain ⟨v, -, hv⟩ := List.mem_map.mp hmem
  exact Action.isToken_of_decode hv

/-- Every alert that was loaded is checked. -/
theorem loadAlerts_checked {text : String} {alerts : List AlertDefinition}
    (h : loadAlerts text = .ok alerts) : ∀ a ∈ alerts, a.Checked := by
  intro a ha
  obtain ⟨r, hr⟩ := mem_loadAlerts h ha
  exact r.checked_of_toDefinition hr

/-! ### The condition -/

/-- A text that can be read as a script is run as one. -/
theorem Script.Interpreter.run_ne_unreadable (i : Interpreter) (cancelAt : Option Nat)
    {source : String} (context : AlertContext) {statements : List Script.Stmt}
    (h : Script.parse source = .ok statements) (f : SyntaxFault) :
    (i.run cancelAt source context).1 ≠ .error (.unreadable f) := by
  unfold run
  split
  · exact fun hf => by cases hf
  · rw [h]
    dsimp only
    split
    · exact fun hf => by cases hf
    · split
      · case _ frame last m _ =>
        dsimp only
        rw [readOutcome_eq]
        intro hf
        obtain ⟨e, -, he⟩ := mapError_eq_error hf
        cases he
      · case _ halt m _ => cases halt <;> exact fun hf => by cases hf

/-- A caller is told of a trouble that the run had. -/
theorem Pool.Evaluation.ofRun_trouble {slot : Nat} {result : Except Trouble Outcome} {e : Trouble}
    (h : ofRun slot result = .answered (.error (.trouble e))) : result = .error e := by
  unfold ofRun at h
  split at h
  · cases h
  · cases h
  · obtain ⟨e', hresult, he⟩ := mapError_eq_error (Evaluation.answered.inj h)
    cases he
    exact hresult

/-- No cycle of a condition that can be read is told that it cannot. -/
theorem Cycle.Sound.readable {i : Interpreter} {t : CycleTask} {s : State} (h : Sound i t s)
    (hchecked : t.alert.Checked) (f : SyntaxFault) :
    s.told ≠ some (.error (.trouble (.unreadable f))) := by
  intro htold
  obtain ⟨v, -, hloss | halone⟩ := h.told _ htold
  · cases hloss
  · obtain ⟨statements, hparse⟩ := hchecked.condition
    exact i.run_ne_unreadable none (t.context v) hparse f
      (Evaluation.ofRun_trouble (halone 0))

/-- The same for a cycle that is run from its start to its end. -/
theorem Turn.readable {t : Turn} {p : Pool} (hfree : (∃ i top, AtRest i top p) ∨ p.permits = 0)
    (hchecked : t.alert.Checked) (f : SyntaxFault) :
    (t.on p).condition.bind Evaluation.told? ≠ some (.error (.trouble (.unreadable f))) := by
  intro htold
  rcases hfree with ⟨i, top, hrest⟩ | hfull
  · obtain ⟨v, -, halone⟩ := t.alone_of_told hrest htold
    obtain ⟨statements, hparse⟩ := hchecked.condition
    exact i.run_ne_unreadable none _ hparse f (Evaluation.ofRun_trouble halone)
  · rcases t.on_cases p with ⟨hnone, -⟩ | ⟨v, -, hcondition, -⟩
    · rw [hnone] at htold
      cases htold
    · rw [hcondition, Pool.evaluate_full hfull] at htold
      cases htold

/-! ### The methods -/

/-- The error of a request whose method is not a token. -/
def ActionError.badMethod : ActionError :=
  .invalidRequest "invalid HTTP method"

namespace Dispatcher

variable {d : Dispatcher} {net : Network}

/-- What is wrong with the parts of a request is told in other words. -/
theorem ofSend_ne_badMethod (e : SendError) : ActionError.ofSend e ≠ .badMethod := by
  unfold ActionError.ofSend ActionError.badMethod
  cases e with
  | noResponse url => exact fun h => by cases h
  | invalidParts => decide
  | invalidAddress url =>
      intro h
      have htext : "builder error for url (" ++ url.text ++ ")" = "invalid HTTP method" :=
        ActionError.invalidRequest.inj h
      have hhead := congrArg (fun s : String => s.toList.head?) htext
      simp at hhead

theorem send_ne_badMethod {request : Except SendError HttpRequest}
    {judge : HttpResponse → Except ActionError Unit}
    (hjudge : ∀ response, judge response ≠ .error .badMethod) :
    (d.send net request judge).result ≠ .error .badMethod := by
  unfold send
  cases request with
  | error e => exact fun h => ofSend_ne_badMethod e (Except.error.inj h)
  | ok request =>
      dsimp only
      split
      · case _ e _ => exact fun h => ofSend_ne_badMethod e (Except.error.inj h)
      · case _ response _ => exact hjudge response

theorem judgeStatus_ne_badMethod (response : HttpResponse) :
    judgeStatus response ≠ .error .badMethod := by
  unfold judgeStatus
  split
  · exact fun h => by cases h
  · exact fun h => by cases h

/-- An action fails for its method only if that is no token. -/
theorem dispatch_ne_badMethod (c : AlertContext) {a : Action}
    (h : ∀ request, a = .http request → isToken request.method = true) :
    (d.dispatch net c a).result ≠ .error .badMethod := by
  cases a with
  | log message => exact fun h => by cases h
  | http request =>
      show (d.sendHttp net request).result ≠ _
      unfold sendHttp
      rw [h request rfl]
      exact send_ne_badMethod judgeStatus_ne_badMethod
  | slack text =>
      show (d.sendChat net text).result ≠ _
      unfold sendChat
      split
      · exact fun h => by cases h
      · split
        · exact fun h => by cases h
        · exact send_ne_badMethod fun _ h => by cases h

theorem outcomes_ne_badMethod (c : AlertContext) : ∀ {actions : List Action} (index : Nat),
    (∀ request, .http request ∈ actions → isToken request.method = true) →
    ∀ o ∈ d.outcomes net c index actions, o.result ≠ .error .badMethod := by
  intro actions
  induction actions with
  | nil => exact fun _ _ o ho => by cases ho
  | cons a as ih =>
      intro index h
      refine List.forall_mem_cons.mpr ⟨dispatch_ne_badMethod c fun request hrequest => ?_,
        ih (index + 1) fun request hrequest => h request (List.mem_cons_of_mem _ hrequest)⟩
      exact h request (hrequest ▸ List.mem_cons_self)

end Dispatcher

/-! ### The end of a cycle -/

/-- A cycle does not end the way that loading has ruled out. -/
structure CycleOutcome.Cleared (outcome : CycleOutcome) : Prop where
  condition : ∀ f, outcome ≠ .failed (.script (.trouble (.unreadable f)))
  methods : ∀ report, outcome = .matched report →
    ∀ o ∈ report.outcomes, o.result ≠ .error .badMethod

theorem CycleOutcome.cleared_timeout (after : Duration) :
    (CycleOutcome.failed (.timeout after)).Cleared where
  condition := fun f h => by cases h
  methods := fun report h => by cases h

/-- A cycle of a checked alert that ends by itself does not end like this. -/
theorem CycleTask.cleared_of_conclusion? {t : CycleTask}
    {answer : Option (Except QueryError Value)} {told : Option (Except EvalError Outcome)}
    {outcome : CycleOutcome} (hchecked : t.alert.Checked)
    (htold : ∀ f, told ≠ some (.error (.trouble (.unreadable f))))
    (h : t.conclusion? answer told = some outcome) : outcome.Cleared := by
  unfold conclusion? at h
  split at h
  · cases h
    exact ⟨fun f hf => (by cases hf), fun report hreport => (by cases hreport)⟩
  · cases h
    refine ⟨fun f hf => htold f ?_, fun report hreport => by cases hreport⟩
    cases hf
    rfl
  · split at h
    · cases h
      refine ⟨fun f hf => (by cases hf), fun report hreport => ?_⟩
      cases hreport
      exact Dispatcher.outcomes_ne_badMethod _ 0 hchecked.methods
    · cases h
      exact ⟨fun f hf => (by cases hf), fun report hreport => (by cases hreport)⟩
  · cases h

theorem Cycle.Sound.cleared {i : Interpreter} {t : CycleTask} {s : State} (h : Sound i t s)
    (hchecked : t.alert.Checked) {outcome : CycleOutcome} (hended : s.stage = .ended outcome) :
    outcome.Cleared := by
  have hfacts := h.stage
  rw [hended] at hfacts
  rcases hfacts with rfl | ⟨hconclusion, -⟩
  · exact CycleOutcome.cleared_timeout _
  · exact CycleTask.cleared_of_conclusion? hchecked (h.readable hchecked) hconclusion

theorem Turn.cleared {t : Turn} {p : Pool} (hfree : (∃ i top, AtRest i top p) ∨ p.permits = 0)
    (hchecked : t.alert.Checked) : (t.on p).outcome.Cleared := by
  rcases ((t.runner p).safe_run t.net t.now t.alert).ends with ⟨-, hlate⟩ | ⟨-, hconclusion⟩
  · have hlate : (t.on p).outcome = .failed (.timeout t.timeout) := hlate
    rw [hlate]
    exact CycleOutcome.cleared_timeout _
  · exact CycleTask.cleared_of_conclusion? (t := t.task) hchecked (Turn.readable hfree hchecked)
      hconclusion

/-! ### The interval -/

theorem AlertDefinition.Checked.interval_pos {a : AlertDefinition} (h : a.Checked) :
    0 < a.interval.nanoseconds := by
  show 0 < a.intervalSecs * 1000000000
  exact Nat.mul_pos h.interval (by decide)

/-- The task of a checked alert has a ticker, with the interval of the alert. -/
theorem AlertDefinition.Checked.exists_task {a : AlertDefinition} (h : a.Checked) :
    ∃ task, a.task? = some task ∧ task.ticker.period = a.interval.nanoseconds := by
  unfold task? Ticker.every?
  rw [dif_pos h.interval_pos]
  exact ⟨_, rfl, rfl⟩

/-- **What the loading of an alert has checked does not fail when the alert runs.**  A cycle of a
loaded alert never fails because its condition cannot be read, and none of its actions because of
a method, whatever the backend and the endpoints answer: neither on a pool in any state that it can
be in, for any steps of the cycle with the steps of others in between, nor if it is run from its
start to its end.  And its interval is not zero, so it has a task, with ticks of that interval. -/
theorem loaded_cleared {text : String} {alerts : List AlertDefinition} {a : AlertDefinition}
    (hload : loadAlerts text = .ok alerts) (ha : a ∈ alerts) :
    (∀ (i : Interpreter) (p : Pool) (t : CycleTask) (es : List Event) (s : State)
        (outcome : CycleOutcome), Pool.Reachable i p → t.alert = a →
      t.steps? (Cycle.start p) es = some s → s.stage = .ended outcome → outcome.Cleared) ∧
    (∀ (r : CycleRunner) (net : Network) (now : Nat),
      (∃ i top, AtRest i top r.pool) ∨ r.pool.permits = 0 → (r.run net now a).outcome.Cleared) ∧
    0 < a.interval.nanoseconds ∧
    ∃ task, a.task? = some task ∧ task.ticker.period = a.interval.nanoseconds := by
  have hchecked := loadAlerts_checked hload a ha
  refine ⟨?_, fun r net now hfree => ?_, hchecked.interval_pos, hchecked.exists_task⟩
  · rintro i p t es s outcome hp rfl hs hended
    exact (Cycle.sound_of_steps? hp hs).cleared hchecked hended
  · exact Turn.cleared (t := ⟨r.search, r.dispatcher, r.timeout, r.patience, net, now, a⟩) hfree
      hchecked

/-- An alert whose method is a token only in upper case. -/
def poster : String :=
  "- name: disk\n  search:\n    index: logs\n  condition: 'True'\n  actions:\n"
    ++ "  - type: log\n  - type: http\n    url: http://pager/\n    method: poſt\n"

/-- A cycle of an alert whose query comes to null. -/
def Turn.ofAlert (a : AlertDefinition) : Turn :=
  { Turn.pager a.name 5 .null a.condition with alert := a }

theorem loaded_cleared_poster :
    ∃ alerts a s outcome task, loadAlerts poster = .ok alerts ∧ a ∈ alerts ∧
      (Turn.ofAlert a).task.steps? (Cycle.start (Pool.new 1 .bare)) (paging .null 0 0 1)
        = some s ∧
      s.stage = .ended outcome ∧ s.paged = (true, ["POST"]) ∧ outcome.Cleared ∧
      ((Turn.ofAlert a).on (Pool.new 1 .bare)).outcome.Cleared ∧
      0 < a.interval.nanoseconds ∧ a.task? = some task ∧
      task.ticker.period = a.interval.nanoseconds := by
  have hshown : (loadAlerts poster).toOption.map (fun alerts => alerts.map fun a =>
      ((Turn.ofAlert a).task.steps? (Cycle.start (Pool.new 1 .bare)) (paging .null 0 0 1)).map
        (·.paged)) = some [some (true, ["POST"])] := by
    decide +kernel
  obtain ⟨alerts, hload, hshown⟩ := eq_ok_of_toOption_map hshown
  obtain ⟨a, rfl, hcycle⟩ := List.map_eq_singleton_iff.mp hshown
  obtain ⟨s, hs, hpaged⟩ := Option.map_eq_some_iff.mp hcycle
  obtain ⟨outcome, hended⟩ := s.exists_outcome_of_paged hpaged
  obtain ⟨hsteps, hrun, hpos, task, htask, hperiod⟩ := loaded_cleared hload List.mem_cons_self
  exact ⟨[a], a, s, outcome, task, hload, List.mem_cons_self, hs, hended, hpaged,
    hsteps .bare _ _ _ s outcome ⟨1, [], rfl⟩ rfl hs hended,
    hrun ((Turn.ofAlert a).runner (Pool.new 1 .bare)) _ _
      (Or.inl ⟨_, _, Pool.atRest_new Nat.one_pos .bare⟩), hpos, htask, hperiod⟩

end Lookout
