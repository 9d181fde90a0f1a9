/-
What a cycle shows of its data.

The actions of a cycle are given the context that its condition left behind, and in it all that
the query came to and all that the script made of it.  An action looks at its context only to
write the name of the alert and the start of the cycle into a record; what it sends and what
becomes of it depends on the action and on the endpoint.  So nothing of the data and of the
script shows in the requests, or in the way the cycle ends, but the verdict.

The endpoints of two cycles need not be the same network.  It is enough that they answer alike
the requests that are sent.
-/
import Lookout.Proofs.Cycle.History

namespace Lookout

open Script (Interpreter Outcome)
open Lookout.Cycle (State Event)

/-! ### The actions -/

/-- Two actions carried out that came to the same, apart from the records they wrote. -/
structure ActionRun.Alike (a b : ActionRun) : Prop where
  result : a.result = b.result
  requests : a.requests = b.requests

theorem ActionRun.Alike.of_eq {a b : ActionRun} (h : a = b) : a.Alike b :=
  ⟨congrArg (·.result) h, congrArg (·.requests) h⟩

namespace Dispatcher

variable {d : Dispatcher} {net net' : Network}

/-- What a request comes to depends on the answer to this request alone. -/
theorem send_congr {request : Except SendError HttpRequest}
    {judge : HttpResponse → Except ActionError Unit}
    (h : ∀ q ∈ (d.send net request judge).requests, net q = net' q) :
    d.send net request judge = d.send net' request judge := by
  cases request with
  | error e => rfl
  | ok request =>
      have hsame : net request = net' request := h request List.mem_cons_self
      have hexchange : net.send d.timeout request = net'.send d.timeout request := by
        unfold Network.send
        rw [hsame]
      unfold send
      dsimp only
      rw [hexchange]

theorem sendHttp_congr {a : HttpAction}
    (h : ∀ q ∈ (d.sendHttp net a).requests, net q = net' q) :
    d.sendHttp net a = d.sendHttp net' a := by
  unfold sendHttp at h ⊢
  split
  · rfl
  · case isFalse htoken =>
    rw [if_neg htoken] at h
    exact send_congr h

theorem sendChat_congr {text : String}
    (h : ∀ q ∈ (d.sendChat net text).requests, net q = net' q) :
    d.sendChat net text = d.sendChat net' text := by
  unfold sendChat at h ⊢
  cases hwebhook : d.webhook with
  | none => rfl
  | some endpoint =>
      rw [hwebhook] at h
      dsimp only at h ⊢
      split
      · rfl
      · case isFalse htext =>
        rw [if_neg htext] at h
        exact send_congr h

/-- The context of an action shows in the records alone. -/
theorem dispatch_alike (c c' : AlertContext) {a : Action}
    (h : ∀ q ∈ (d.dispatch net c a).requests, net q = net' q) :
    (d.dispatch net c a).Alike (d.dispatch net' c' a) := by
  cases a with
  | log message => exact ⟨rfl, rfl⟩
  | http request => exact .of_eq (sendHttp_congr h)
  | slack text => exact .of_eq (sendChat_congr h)

theorem outcomes_alike (c c' : AlertContext) : ∀ (actions : List Action) (index : Nat),
    (∀ a ∈ actions, (d.dispatch net c a).Alike (d.dispatch net' c' a)) →
    d.outcomes net c index actions = d.outcomes net' c' index actions := by
  intro actions
  induction actions with
  | nil => exact fun _ _ => rfl
  | cons a as ih =>
      intro index h
      unfold outcomes
      rw [(h a List.mem_cons_self).result, ih (index + 1) fun b hb =>
        h b (List.mem_cons_of_mem _ hb)]

/-- Of the actions of an alert the context shows in the records alone. -/
theorem dispatchAll_alike (c c' : AlertContext) {actions : List Action}
    (h : ∀ q ∈ (d.dispatchAll net c actions).requests, net q = net' q) :
    (d.dispatchAll net c actions).report = (d.dispatchAll net' c' actions).report ∧
      (d.dispatchAll net c actions).requests = (d.dispatchAll net' c' actions).requests := by
  have heach : ∀ a ∈ actions, (d.dispatch net c a).Alike (d.dispatch net' c' a) :=
    fun a ha => dispatch_alike c c' fun q hq =>
      h q (List.mem_flatMap.mpr ⟨_, List.mem_map_of_mem ha, hq⟩)
  unfold dispatchAll
  refine ⟨congrArg DispatchReport.mk (outcomes_alike c c' actions 0 heach), ?_⟩
  dsimp only
  rw [List.flatMap_map, List.flatMap_map]
  exact List.flatMap_congr fun a ha => (heach a ha).requests

end Dispatcher

/-! ### The end of a cycle -/

namespace CycleTask

/-- What the actions of a cycle send that was told about its condition. -/
def sends (t : CycleTask) (v : Value) (o : Outcome) : List HttpRequest :=
  if o.matched then (t.dispatch v o).requests else []

theorem sends_matched {t : CycleTask} {v : Value} {o : Outcome} (h : o.matched = true) :
    t.sends v o = (t.dispatch v o).requests :=
  if_pos h

theorem sends_unmatched {t : CycleTask} {v : Value} {o : Outcome} (h : o.matched = false) :
    t.sends v o = [] :=
  if_neg (by rw [h]; exact Bool.false_ne_true)

/-- Tasks of the same actions end alike if they come to the same verdict. -/
theorem alike_of_verdict (t t' : CycleTask) (v v' : Value) {o o' : Outcome}
    (hactions : t.alert.actions = t'.alert.actions) (hdispatcher : t.dispatcher = t'.dispatcher)
    (hverdict : o.matched = o'.matched) (hnet : ∀ q ∈ t.sends v o, t.net q = t'.net q) :
    t.conclusion? (some (.ok v)) (some (.ok o))
        = t'.conclusion? (some (.ok v')) (some (.ok o')) ∧
      t.sends v o = t'.sends v' o' := by
  cases hmatched : o.matched with
  | false =>
      have hmatched' : o'.matched = false := by rw [← hverdict, hmatched]
      rw [conclusion?_unmatched hmatched, conclusion?_unmatched hmatched',
        sends_unmatched hmatched, sends_unmatched hmatched']
      exact ⟨rfl, rfl⟩
  | true =>
      have hmatched' : o'.matched = true := by rw [← hverdict, hmatched]
      rw [sends_matched hmatched] at hnet
      have halike := Dispatcher.dispatchAll_alike _
        ((t'.context v').withResult o'.result) hnet
      rw [conclusion?_matched hmatched, conclusion?_matched hmatched',
        sends_matched hmatched, sends_matched hmatched']
      unfold dispatch
      rw [← hdispatcher, ← hactions, halike.1, halike.2]
      exact ⟨rfl, rfl⟩

/-- A cycle on a pool that it may share has ended in time, and its condition had an outcome. -/
structure Decided (t : CycleTask) (s : State) (o : Outcome) (outcome : CycleOutcome) :
    Prop where
  came : ∃ i p es, Pool.Reachable i p ∧ t.steps? (Cycle.start p) es = some s ∧ .deadline ∉ es
  told : s.told = some (.ok o)
  ended : s.stage = .ended outcome

/-- How a cycle ends and what it sends, from what its query and its condition came to. -/
theorem Decided.exists_value {t : CycleTask} {s : State} {o : Outcome} {outcome : CycleOutcome}
    (h : t.Decided s o outcome) :
    ∃ v, t.conclusion? (some (.ok v)) (some (.ok o)) = some outcome ∧
      s.sent.Perm (t.sends v o) := by
  obtain ⟨i, p, es, hp, hs, htime⟩ := h.came
  have hsound := Cycle.sound_of_steps? hp hs
  have hsafe := Cycle.safe_of_steps? hp hs
  obtain ⟨v, hv, -⟩ := hsound.told _ h.told
  have hended := hsafe.ended outcome h.ended htime
  rw [hv, h.told] at hended
  refine ⟨v, hended, ?_⟩
  cases hmatched : o.matched with
  | true =>
      have hnot : outcome ≠ .failed (.timeout t.timeout) := fun hlate =>
        htime ((hsafe.late outcome h.ended).mp hlate)
      rw [sends_matched hmatched]
      exact (hsound.sent_of_ended h.ended hnot hv h.told hmatched).1
  | false =>
      have hsilent := hsound.silent fun o' ho' => by
        rw [h.told] at ho'
        cases ho'
        exact hmatched
      rw [sends_unmatched hmatched, hsilent.1]

end CycleTask

namespace CycleRunner

/-- A cycle that is run from its start to its end has ended in time, and its condition had an
outcome. -/
structure Decided (r : CycleRunner) (net : Network) (now : Nat) (alert : AlertDefinition)
    (o : Outcome) : Prop where
  told : (r.run net now alert).condition = some (.answered (.ok o))
  inTime : r.isOut net now alert = false

variable {r : CycleRunner} {net : Network} {now : Nat} {alert : AlertDefinition} {o : Outcome}

/-- A cycle whose condition had an outcome went on as that says. -/
theorem judge_of_told {c : AlertContext} {query : QueryRun}
    (htold : (r.judge net alert c query).condition = some (.answered (.ok o))) :
    ∃ answered, r.judge net alert c query =
      if o.matched then r.act net alert (c.withResult o.result) query answered
      else endAtCondition .noMatch query query.took answered := by
  refine ⟨r.pool.evaluate r.patience ⟨alert.condition, c⟩, ?_⟩
  have hasked : (r.judge net alert c query).condition
      = some (r.pool.evaluate r.patience ⟨alert.condition, c⟩).1 := by
    unfold judge
    dsimp only
    split
    · rfl
    · rfl
    · split
      · rfl
      · rfl
  have heval := Option.some.inj (hasked.symm.trans htold)
  unfold judge
  dsimp only
  rw [heval]

/-- The requests of a cycle are those of its query and those of its actions. -/
theorem requests_of_told (htold : (r.run net now alert).condition = some (.answered (.ok o))) :
    ∃ v, (r.search alert.search).result = .ok v ∧
      (r.run net now alert).requests
        = (r.search alert.search).requests ++ (r.task net now alert).sends v o := by
  obtain ⟨v, hv⟩ := (r.safe_run net now alert).asked (by rw [htold]; exact Option.some_ne_none _)
  have hintime : ¬ r.isLate (r.search alert.search).took = true := by
    intro hlate
    unfold run at htold
    dsimp only at htold
    rw [if_pos hlate] at htold
    cases htold
  have hrun : r.run net now alert
      = r.judge net alert ⟨alert.name, now, v⟩ (r.search alert.search) := by
    unfold run
    dsimp only
    rw [if_neg hintime, hv]
  rw [hrun] at htold ⊢
  obtain ⟨answered, hjudge⟩ := judge_of_told htold
  refine ⟨v, hv, ?_⟩
  rw [hjudge]
  cases hmatched : o.matched with
  | true =>
      rw [CycleTask.sends_matched hmatched]
      rfl
  | false =>
      rw [CycleTask.sends_unmatched hmatched, List.append_nil]
      rfl

theorem Decided.exists_value (h : r.Decided net now alert o) :
    ∃ v, (r.task net now alert).conclusion? (some (.ok v)) (some (.ok o))
        = some (r.run net now alert).outcome ∧
      (r.run net now alert).requests
        = (r.search alert.search).requests ++ (r.task net now alert).sends v o := by
  obtain ⟨v, hv, hrequests⟩ := requests_of_told h.told
  refine ⟨v, ?_, hrequests⟩
  rcases (r.safe_run net now alert).ends with ⟨hout, -⟩ | ⟨-, hended⟩
  · rw [h.inTime] at hout
    cases hout
  · rw [h.told, hv] at hended
    exact hended

end CycleRunner

/-! ### The verdict -/

/-- **Nothing of its data and its script shows in what a cycle does but the verdict.**  Two cycles
of the same actions, of whatever else, that end in time and come to the same verdict send the same
requests and end alike, with equal reports.  This is so for cycles that share their pools with
others, whose actions begin in any order, and for cycles that are run from their start to their
end. -/
theorem verdict_decides :
    (∀ (t t' : CycleTask) (s s' : State) (o o' : Outcome) (outcome outcome' : CycleOutcome),
      t.Decided s o outcome → t'.Decided s' o' outcome' →
      t.alert.actions = t'.alert.actions → t.dispatcher = t'.dispatcher →
      o.matched = o'.matched → (∀ q ∈ s.sent, t.net q = t'.net q) →
      outcome = outcome' ∧ s.sent.Perm s'.sent) ∧
    (∀ (r r' : CycleRunner) (net net' : Network) (now now' : Nat)
        (alert alert' : AlertDefinition) (o o' : Outcome),
      r.Decided net now alert o → r'.Decided net' now' alert' o' →
      alert.actions = alert'.actions → r.dispatcher = r'.dispatcher →
      o.matched = o'.matched →
      ∃ sent, (r.run net now alert).requests = (r.search alert.search).requests ++ sent ∧
        ((∀ q ∈ sent, net q = net' q) →
          (r.run net now alert).outcome = (r'.run net' now' alert').outcome ∧
          (r'.run net' now' alert').requests
            = (r'.search alert'.search).requests ++ sent)) := by
  constructor
  · intro t t' s s' o o' outcome outcome' h h' hactions hdispatcher hverdict hnet
    obtain ⟨v, hended, hsent⟩ := h.exists_value
    obtain ⟨v', hended', hsent'⟩ := h'.exists_value
    obtain ⟨hsame, hsends⟩ := CycleTask.alike_of_verdict t t' v v' hactions hdispatcher
      hverdict fun q hq => hnet q (hsent.mem_iff.mpr hq)
    rw [hsame, hended'] at hended
    rw [← hsends] at hsent'
    exact ⟨(Option.some.inj hended).symm, hsent.trans hsent'.symm⟩
  · intro r r' net net' now now' alert alert' o o' h h' hactions hdispatcher hverdict
    obtain ⟨v, hended, hrequests⟩ := h.exists_value
    obtain ⟨v', hended', hrequests'⟩ := h'.exists_value
    refine ⟨_, hrequests, fun hnet => ?_⟩
    obtain ⟨hsame, hsends⟩ := CycleTask.alike_of_verdict (r.task net now alert)
      (r'.task net' now' alert') v v' hactions hdispatcher hverdict hnet
    rw [hsame, hended'] at hended
    rw [← hsends] at hrequests'
    exact ⟨(Option.some.inj hended).symm, hrequests'⟩

/-- A cycle that wakes somebody up, if its condition holds of what its query comes to. -/
def Turn.pager (name : String) (now : Nat) (found : Value) (condition : String) : Turn where
  search := fun _ => ⟨.ok found, [], ⟨1⟩⟩
  dispatcher := .new none ⟨10⟩
  timeout := ⟨20⟩
  patience := none
  net := fun q => ⟨⟨2⟩, some ⟨if q.method = "POST" then 204 else now, "paged"⟩⟩
  now := now
  alert := ⟨name, 60, ⟨"logs", found⟩, condition,
    [.log "up", .http ⟨"POST", "http://pager/", [], "wake"⟩]⟩

/-- The steps of a cycle of two actions on a worker of its own.  The actions begin in some
order. -/
def paging (found : Value) (worker first second : Nat) : List Event :=
  [.answer (.ok found), .takePermit, .popSlot, .send, .elsewhere (.start worker),
    .elsewhere (.finish worker none), .receive, .beginAction first, .beginAction second,
    .endAction 0, .endAction 1, .report]

/-- Whether a cycle has ended, and the methods of what it sent. -/
def Cycle.State.paged (s : State) : Bool × List String :=
  (match s.stage with | .ended _ => true | _ => false, s.sent.map (·.method))

theorem Cycle.State.exists_outcome_of_paged {s : State} {methods : List String}
    (h : s.paged = (true, methods)) : ∃ outcome, s.stage = .ended outcome := by
  have hended := (Prod.mk.inj h).1
  cases hstage : s.stage with
  | ended outcome => exact ⟨outcome, rfl⟩
  | _ =>
      rw [hstage] at hended
      cases hended

/-- A cycle that has ended in time and sent something was told that its condition holds. -/
theorem CycleTask.decided_of_paged {t : CycleTask} {i : Interpreter} {p : Pool} {es : List Event}
    {s : State} (hp : Pool.Reachable i p) (hs : t.steps? (Cycle.start p) es = some s)
    (htime : .deadline ∉ es) (hpaged : s.paged = (true, ["POST"])) :
    ∃ o outcome, t.Decided s o outcome ∧ o.matched = true := by
  obtain ⟨outcome, hended⟩ := s.exists_outcome_of_paged hpaged
  have hsent := (Prod.mk.inj hpaged).2
  obtain ⟨-, o, -, ho, hmatched, -⟩ := (Cycle.safe_of_steps? hp hs).loud
    (Or.inl fun hnone => by rw [hnone] at hsent; cases hsent)
  exact ⟨o, outcome, ⟨⟨i, p, es, hp, hs, htime⟩, ho, hended⟩, hmatched⟩

/-- A cycle of a runner that matched was told that its condition holds. -/
theorem CycleRunner.decided_of_isMatch (r : CycleRunner) (net : Network) (now : Nat)
    (alert : AlertDefinition) (hmatch : (r.run net now alert).outcome.isMatch = true)
    (hloud : (r.run net now alert).logs ≠ []) :
    ∃ o, r.Decided net now alert o ∧ o.matched = true := by
  obtain ⟨o, ho, hmatched⟩ := (r.safe_run net now alert).loud (Or.inr hloud)
  refine ⟨o, ⟨ho, ?_⟩, hmatched⟩
  rcases (r.safe_run net now alert).ends with ⟨-, hlate⟩ | ⟨hin, -⟩
  · rw [hlate] at hmatch
    cases hmatch
  · exact hin

/-- Two cycles that have little in common but their actions page alike. -/
theorem verdict_decides_pagers :
    let disk := Turn.pager "disk" 5 (.bool true) "True"
    let load := Turn.pager "load" 900 (.string "x") "result = [name]\nlen(name) == 4"
    (∃ s s' outcome,
      disk.task.steps? (Cycle.start (Pool.new 1 .bare)) (paging (.bool true) 0 0 1) = some s ∧
      load.task.steps? (Cycle.start (Pool.new 2 .bare)) (paging (.string "x") 1 1 0) = some s' ∧
      s.paged = (true, ["POST"]) ∧ s.stage = .ended outcome ∧
      s'.stage = .ended outcome ∧ s.sent.Perm s'.sent) ∧
    ((disk.on (Pool.new 1 .bare)).outcome = (load.on (Pool.new 2 .bare)).outcome ∧
      (disk.on (Pool.new 1 .bare)).requests = (load.on (Pool.new 2 .bare)).requests ∧
      (disk.on (Pool.new 1 .bare)).requests.map (·.method) = ["POST"]) := by
  intro disk load
  have hnet : ∀ {sent : List HttpRequest}, sent.map (·.method) = ["POST"] →
      ∀ q ∈ sent, disk.net q = load.net q := by
    intro sent hmethods q hq
    have hpost : q.method ∈ sent.map (·.method) := List.mem_map_of_mem hq
    rw [hmethods, List.mem_singleton] at hpost
    simp [disk, load, Turn.pager, hpost]
  constructor
  · obtain ⟨s, hs, hpaged⟩ := Option.map_eq_some_iff.mp
      (show (disk.task.steps? (Cycle.start (Pool.new 1 .bare)) (paging (.bool true) 0 0 1)).map
        (·.paged) = some (true, ["POST"]) by decide +kernel)
    obtain ⟨s', hs', hpaged'⟩ := Option.map_eq_some_iff.mp
      (show (load.task.steps? (Cycle.start (Pool.new 2 .bare)) (paging (.string "x") 1 1 0)).map
        (·.paged) = some (true, ["POST"]) by decide +kernel)
    obtain ⟨o, outcome, h, hmatched⟩ := CycleTask.decided_of_paged ⟨1, [], rfl⟩ hs
      (by simp [paging]) hpaged
    obtain ⟨o', outcome', h', hmatched'⟩ := CycleTask.decided_of_paged ⟨2, [], rfl⟩ hs'
      (by simp [paging]) hpaged'
    have hmethods : s.sent.map (·.method) = ["POST"] := (Prod.mk.inj hpaged).2
    obtain ⟨rfl, hperm⟩ := verdict_decides.1 _ _ s s' o o' outcome outcome' h h' rfl rfl
      (hmatched.trans hmatched'.symm) (hnet hmethods)
    exact ⟨s, s', outcome, hs, hs', hpaged, h.ended, h'.ended, hperm⟩
  · obtain ⟨o, h, hmatched⟩ := CycleRunner.decided_of_isMatch
      (disk.runner (Pool.new 1 .bare)) disk.net disk.now disk.alert
      (by decide +kernel) (by decide +kernel)
    obtain ⟨o', h', hmatched'⟩ := CycleRunner.decided_of_isMatch
      (load.runner (Pool.new 2 .bare)) load.net load.now load.alert
      (by decide +kernel) (by decide +kernel)
    obtain ⟨sent, hsent, hsame⟩ := verdict_decides.2 _ _ _ _ _ _ _ _ o o' h h' rfl rfl
      (hmatched.trans hmatched'.symm)
    have hmethods : (disk.on (Pool.new 1 .bare)).requests.map (·.method) = ["POST"] := by
      decide +kernel
    have hsent : (disk.on (Pool.new 1 .bare)).requests = sent := hsent
    obtain ⟨houtcome, hrequests⟩ := hsame (hnet (by rw [← hsent]; exact hmethods))
    exact ⟨houtcome, hsent.trans hrequests.symm, hmethods⟩

end Lookout
