/-
What a cycle comes to does not depend on the cycles before it.

There are two ways in which cycles can follow each other.  They may take turns, each with the pool
for itself; then a pool that is used again is at rest, and a cycle asks nothing of a pool but what
an evaluation on it comes to, which is the same on all pools at rest.  Or they may share the
pool, in any order of their steps; then the interpreters of all workers are still the one that the
pool was started with, whichever slot a cycle gets, and what it is told is what that interpreter
makes of its condition.
-/
import Lookout.Proofs.Cycle.Safety

namespace Lookout

open Script (Interpreter Outcome Trouble)
open Lookout.Cycle (State Event)
open Pool (AtRest Evaluation)

/-! ### Cycles in turns -/

/-- One cycle, with all that it depends on apart from the pool. -/
structure Turn where
  search : SearchBackend
  dispatcher : Dispatcher
  timeout : Duration
  patience : Option Nat
  net : Network
  now : Nat
  alert : AlertDefinition

namespace Turn

/-- The runner of a cycle on a pool. -/
def runner (t : Turn) (p : Pool) : CycleRunner :=
  ⟨t.search, p, t.dispatcher, t.timeout, t.patience⟩

/-- The cycle on a pool. -/
def on (t : Turn) (p : Pool) : CycleRun :=
  (t.runner p).run t.net t.now t.alert

/-- The pool after some cycles, one after the other. -/
def after (p : Pool) (turns : List Turn) : Pool :=
  turns.foldl (fun q t => (t.on q).pool) p

/-- What the cycle is about. -/
def task (t : Turn) : CycleTask :=
  ⟨t.alert, t.now, t.dispatcher, t.net, t.timeout⟩

/-- Whether the time of the cycle is up before its end. -/
def isOut (t : Turn) (p : Pool) : Bool :=
  (t.runner p).isOut t.net t.now t.alert

end Turn

/-- Two cycles that did the same, to different pools maybe. -/
structure CycleRun.Alike (a b : CycleRun) : Prop where
  outcome : a.outcome = b.outcome
  condition : a.condition = b.condition
  requests : a.requests = b.requests
  logs : a.logs = b.logs
  took : a.took = b.took

namespace CycleRun.Alike

theorem endAtCondition {a b : Evaluation × Pool} (h : a.1 = b.1) (outcome : CycleOutcome)
    (query : QueryRun) (took : Duration) :
    (CycleRunner.endAtCondition outcome query took a).Alike
      (CycleRunner.endAtCondition outcome query took b) :=
  ⟨rfl, congrArg some h, rfl, rfl, rfl⟩

theorem act {t : Turn} {p q : Pool} {a b : Evaluation × Pool} (h : a.1 = b.1) (c : AlertContext)
    (query : QueryRun) :
    ((t.runner p).act t.net t.alert c query a).Alike ((t.runner q).act t.net t.alert c query b) :=
  ⟨rfl, congrArg some h, rfl, rfl, rfl⟩

theorem judge {t : Turn} {p q : Pool}
    (h : ∀ request, (p.evaluate t.patience request).1 = (q.evaluate t.patience request).1)
    (c : AlertContext) (query : QueryRun) :
    ((t.runner p).judge t.net t.alert c query).Alike
      ((t.runner q).judge t.net t.alert c query) := by
  have hsame := h ⟨t.alert.condition, c⟩
  have hp : ((t.runner p).pool.evaluate (t.runner p).patience ⟨t.alert.condition, c⟩).1
      = (q.evaluate t.patience ⟨t.alert.condition, c⟩).1 := hsame
  unfold CycleRunner.judge
  dsimp only
  rw [hp]
  cases heval : (q.evaluate t.patience ⟨t.alert.condition, c⟩).1 with
  | gaveUp =>
      have hq : ((t.runner q).pool.evaluate (t.runner q).patience ⟨t.alert.condition, c⟩).1
          = .gaveUp := heval
      rw [hq]
      exact endAtCondition hsame _ _ _
  | answered told =>
      have hq : ((t.runner q).pool.evaluate (t.runner q).patience ⟨t.alert.condition, c⟩).1
          = .answered told := heval
      rw [hq]
      cases told with
      | error e => exact endAtCondition hsame _ _ _
      | ok o =>
          dsimp only
          split
          · exact act hsame _ _
          · exact endAtCondition hsame _ _ _

end CycleRun.Alike

/-- A cycle asks nothing of its pool but what the evaluation of its condition comes to. -/
theorem Turn.alike_of_evaluate {t : Turn} {p q : Pool}
    (h : ∀ request, (p.evaluate t.patience request).1 = (q.evaluate t.patience request).1) :
    (t.on p).Alike (t.on q) := by
  unfold Turn.on CycleRunner.run
  dsimp only
  by_cases hlate : (t.runner p).isLate ((t.runner p).search t.alert.search).took = true
  · have hlate' : (t.runner q).isLate ((t.runner q).search t.alert.search).took = true := hlate
    rw [if_pos hlate, if_pos hlate']
    exact ⟨rfl, rfl, rfl, rfl, rfl⟩
  · have hlate' : ¬ (t.runner q).isLate ((t.runner q).search t.alert.search).took = true := hlate
    rw [if_neg hlate, if_neg hlate']
    cases hresult : (t.search t.alert.search).result with
    | error e =>
        have hp : ((t.runner p).search t.alert.search).result = .error e := hresult
        have hq : ((t.runner q).search t.alert.search).result = .error e := hresult
        rw [hp, hq]
        exact ⟨rfl, rfl, rfl, rfl, rfl⟩
    | ok v =>
        have hp : ((t.runner p).search t.alert.search).result = .ok v := hresult
        have hq : ((t.runner q).search t.alert.search).result = .ok v := hresult
        rw [hp, hq]
        exact .judge h _ _

/-- A cycle does not touch its pool, or it evaluates its condition on it once. -/
theorem Turn.on_cases (t : Turn) (p : Pool) :
    ((t.on p).condition = none ∧ (t.on p).pool = p) ∨
      ∃ v, (t.search t.alert.search).result = .ok v ∧
        (t.on p).condition
          = some (p.evaluate t.patience (t.task.request (t.task.context v))).1 ∧
        (t.on p).pool = (p.evaluate t.patience (t.task.request (t.task.context v))).2 := by
  unfold Turn.on CycleRunner.run
  dsimp only
  split
  · exact Or.inl ⟨rfl, rfl⟩
  · split
    · exact Or.inl ⟨rfl, rfl⟩
    · case _ v hv =>
      refine Or.inr ⟨v, hv, ?_⟩
      unfold CycleRunner.judge
      dsimp only
      split
      · exact ⟨rfl, rfl⟩
      · exact ⟨rfl, rfl⟩
      · split
        · exact ⟨rfl, rfl⟩
        · exact ⟨rfl, rfl⟩

theorem Turn.atRest_on {i : Interpreter} {top : Nat} {p : Pool} (t : Turn) (h : AtRest i top p) :
    AtRest i top (t.on p).pool := by
  rcases t.on_cases p with ⟨-, heq⟩ | ⟨v, -, -, heq⟩
  · rw [heq]
    exact h
  · rw [heq]
    exact (h.evaluate t.patience _).2

/-- A pool is at rest again after any cycles that took turns. -/
theorem Turn.atRest_after {i : Interpreter} {top : Nat} :
    ∀ (turns : List Turn) {p : Pool}, AtRest i top p → AtRest i top (Turn.after p turns) := by
  intro turns
  induction turns with
  | nil => exact fun h => h
  | cons t ts ih => exact fun h => ih (t.atRest_on h)

/-- A cycle does the same on all pools at rest. -/
theorem Turn.alike_of_atRest {i : Interpreter} {top : Nat} {p q : Pool} (t : Turn)
    (hp : AtRest i top p) (hq : AtRest i top q) : (t.on p).Alike (t.on q) :=
  Turn.alike_of_evaluate fun request => by
    rw [(hp.evaluate t.patience request).1, (hq.evaluate t.patience request).1]

/-! ### Cycles that share the pool -/

/-- An evaluation that has an answer on a pool at rest has the one of a full run. -/
theorem Pool.AtRest.alone_of_answered {i : Interpreter} {top : Nat} {p : Pool} {n : Option Nat}
    {request : EvalRequest} {told : Except EvalError Outcome} (h : AtRest i top p)
    (hanswer : (p.evaluate n request).1 = .answered told) :
    Pool.alone i top request = .answered told := by
  rw [(h.evaluate n request).1] at hanswer
  have hfull : (i.run n request.script request.context).1 ≠ .error .cancelled := by
    intro hcancelled
    rw [hcancelled] at hanswer
    cases hanswer
  rw [i.run_of_not_cancelled hfull] at hanswer
  exact hanswer

/-- What a cycle is told about its condition on a pool at rest is what a full run of it comes
to. -/
theorem Turn.alone_of_told {i : Interpreter} {top : Nat} {p : Pool} (t : Turn)
    (h : AtRest i top p) {told : Except EvalError Outcome}
    (htold : (t.on p).condition.bind Evaluation.told? = some told) :
    ∃ v, (t.search t.alert.search).result = .ok v ∧
      Pool.alone i top (t.task.request (t.task.context v)) = .answered told := by
  rcases t.on_cases p with ⟨hnone, -⟩ | ⟨v, hv, hcondition, -⟩
  · rw [hnone] at htold
    cases htold
  · rw [hcondition] at htold
    refine ⟨v, hv, h.alone_of_answered (n := t.patience) ?_⟩
    cases heval : (p.evaluate t.patience (t.task.request (t.task.context v))).1 with
    | gaveUp =>
        rw [heval] at htold
        cases htold
    | answered r =>
        rw [heval] at htold
        cases htold
        rfl

namespace Cycle.Sound

variable {i : Interpreter} {t : CycleTask} {s s' : State} {outcome outcome' : CycleOutcome}

/-- A cycle that ended by itself was told about its condition if its query succeeded, and only
then. -/
theorem told_isSome (h : Sound i t s) (hended : t.conclusion? s.answer s.told = some outcome) :
    (∃ e, s.answer = some (.error e) ∧ s.told = none) ∨
      ∃ v told, s.answer = some (.ok v) ∧ s.told = some told := by
  unfold CycleTask.conclusion? at hended
  cases hanswer : s.answer with
  | none =>
      rw [hanswer] at hended
      cases hended
  | some result =>
      cases htold : s.told with
      | none =>
          cases result with
          | error e => exact Or.inl ⟨e, rfl, rfl⟩
          | ok v =>
              rw [hanswer, htold] at hended
              cases hended
      | some told =>
          obtain ⟨v, hv, -⟩ := h.told told htold
          rw [hanswer] at hv
          exact Or.inr ⟨v, told, hv, rfl⟩

/-- What a cycle that ended by itself sent and wrote follows from what it was told. -/
theorem sent_of_ended (h : Sound i t s) (hended : s.stage = .ended outcome)
    (htime : outcome ≠ .failed (.timeout t.timeout)) {v : Value} {o : Outcome}
    (hv : s.answer = some (.ok v)) (ho : s.told = some (.ok o)) (hmatched : o.matched = true) :
    s.sent.Perm (t.dispatch v o).requests ∧ s.logs.Perm (t.dispatch v o).logs := by
  have hfacts := h.stage
  rw [hended] at hfacts
  exact (hfacts.resolve_left htime).2 v o hv ho hmatched

/-- **Two runs of a cycle that are given the same come to the same**, whatever else happens on
the pools that they run on. -/
theorem determined (h : Sound i t s) (h' : Sound i t s') (hended : s.stage = .ended outcome)
    (hended' : s'.stage = .ended outcome') (htime : outcome ≠ .failed (.timeout t.timeout))
    (htime' : outcome' ≠ .failed (.timeout t.timeout)) (hanswer : s.answer = s'.answer)
    (htold : ∀ r r', s.told = some r → s'.told = some r' → r = r') :
    outcome = outcome' ∧ s.told = s'.told ∧ s.sent.Perm s'.sent ∧ s.logs.Perm s'.logs := by
  have hconclusion := h.ended_of_in_time hended htime
  have hconclusion' := h'.ended_of_in_time hended' htime'
  have hsame : s.told = s'.told := by
    rcases h.told_isSome hconclusion with ⟨e, he, hnone⟩ | ⟨v, r, hv, hr⟩
    · rcases h'.told_isSome hconclusion' with ⟨-, -, hnone'⟩ | ⟨v', -, hv', -⟩
      · rw [hnone, hnone']
      · rw [← hanswer, he] at hv'
        cases hv'
    · rcases h'.told_isSome hconclusion' with ⟨e, he, -⟩ | ⟨-, r', -, hr'⟩
      · rw [← hanswer, hv] at he
        cases he
      · rw [hr, hr', htold r r' hr hr']
  refine ⟨?_, hsame, ?_⟩
  · rw [hanswer, hsame, hconclusion'] at hconclusion
    exact (Option.some.inj hconclusion).symm
  · by_cases hmatched : ∃ o, s.told = some (.ok o) ∧ o.matched = true
    · obtain ⟨o, ho, hmatched⟩ := hmatched
      obtain ⟨v, hv, -⟩ := h.told _ ho
      have hv' : s'.answer = some (.ok v) := by rw [← hanswer, hv]
      have ho' : s'.told = some (.ok o) := by rw [← hsame, ho]
      obtain ⟨hsent, hlogs⟩ := h.sent_of_ended hended htime hv ho hmatched
      obtain ⟨hsent', hlogs'⟩ := h'.sent_of_ended hended' htime' hv' ho' hmatched
      exact ⟨hsent.trans hsent'.symm, hlogs.trans hlogs'.symm⟩
    · have hnone : ∀ o, s.told = some (.ok o) → o.matched = false := fun o ho =>
        Bool.eq_false_iff.mpr fun hm => hmatched ⟨o, ho, hm⟩
      obtain ⟨hsent, hlogs⟩ := h.silent hnone
      obtain ⟨hsent', hlogs'⟩ := h'.silent (by rw [← hsame]; exact hnone)
      rw [hsent, hsent', hlogs, hlogs']
      exact ⟨List.Perm.refl _, List.Perm.refl _⟩

end Cycle.Sound

/-- A cycle on its way that has come to what a cycle comes to that is run from start to end, up to
the order in which its actions began. -/
structure CycleRunner.EndsLike (query : QueryRun) (s : State) (run : CycleRun) : Prop where
  outcome : s.stage = .ended run.outcome
  told : s.told = run.condition.bind Evaluation.told?
  requests : (query.requests ++ s.sent).Perm run.requests
  logs : s.logs.Perm run.logs

/-- A cycle on a pool that is shared comes to what it comes to on a pool at rest. -/
theorem Turn.endsLike {i : Interpreter} {top : Nat} {p q : Pool} (t : Turn) {es : List Event}
    {s : State} (hp : Pool.Reachable i p) (hq : Pool.Reachable i q) (hrest : AtRest i top q)
    (hs : t.task.steps? (Cycle.start p) es = some s) {outcome : CycleOutcome}
    (hended : s.stage = .ended outcome) (htime : .deadline ∉ es) (hin : t.isOut q = false)
    (hanswer : s.answer = some (t.search t.alert.search).result)
    (halive : ∀ told, s.told = some told → Pool.isLoss told = false) :
    CycleRunner.EndsLike (t.search t.alert.search) s (t.on q) := by
  obtain ⟨fs, s', hs', hsame⟩ := (t.runner q).run_is_steps t.net t.now t.alert
    (Or.inl ⟨i, top, hrest⟩)
  have hsound := Cycle.sound_of_steps? hp hs
  have hsound' := Cycle.sound_of_steps? (t := t.task) hq hs'
  have hnot : outcome ≠ .failed (.timeout t.timeout) := fun h =>
    htime (((Cycle.safe_of_steps? hp hs).late outcome hended).mp h)
  have hnot' : (t.on q).outcome ≠ .failed (.timeout t.timeout) := by
    rcases ((t.runner q).safe_run t.net t.now t.alert).ends with ⟨hout, -⟩ | ⟨-, hconclusion⟩
    · have hout : t.isOut q = true := hout
      rw [hin] at hout
      cases hout
    · exact CycleTask.conclusion?_ne_timeout (t := t.task) hconclusion
  have hanswer' : s.answer = s'.answer := by
    have hconclusion := hsound'.ended_of_in_time hsame.outcome hnot'
    cases hgiven : s'.answer with
    | none =>
        rw [hgiven] at hconclusion
        cases hconclusion
    | some result => rw [hanswer, hsame.answer result hgiven]; rfl
  have hagree : ∀ told told', s.told = some told → s'.told = some told' → told = told' := by
    intro told told' htold htold'
    obtain ⟨v, hv, hloss | halone⟩ := hsound.told told htold
    · rw [halive told htold] at hloss
      cases hloss
    · rw [hsame.told] at htold'
      obtain ⟨v', hv', halone'⟩ := t.alone_of_told hrest htold'
      rw [hanswer, hv'] at hv
      cases hv
      rw [halone top] at halone'
      cases halone'
      rfl
  obtain ⟨rfl, htold, hsent, hlogs⟩ :=
    hsound.determined hsound' hended hsame.outcome hnot hnot' hanswer' hagree
  refine ⟨hended, by rw [htold, hsame.told]; rfl, ?_, ?_⟩
  · have hrequests : (t.on q).requests = (t.search t.alert.search).requests ++ s'.sent :=
      hsame.requests
    rw [hrequests]
    exact hsent.append_left _
  · have hwritten : (t.on q).logs = s'.logs := hsame.logs
    rw [hwritten]
    exact hlogs

/-! ### History -/

/-- **Nothing of the cycles before it shows in a cycle.**  Let a pool be new, of any size and with
any helper script.  After any cycles that took turns on it, whatever they were about and however
they ended, a cycle does exactly what it does on the new pool.  And in any state that the pool can
come to when it is shared, all workers have the interpreter that they were started with, and a
cycle that ends in time and keeps its worker ends the way it does on the new pool, whichever slot
it gets and whatever others do meanwhile. -/
theorem history_independent {size : Nat} {helpers : Option String} {p₀ : Pool}
    (hp : Pool.create size helpers = .ok p₀) :
    (∀ (earlier : List Turn) (next : Turn),
      (next.on (Turn.after p₀ earlier)).Alike (next.on p₀)) ∧
    ∀ (past : List Pool.Event) (p : Pool), p₀.steps? past = some p →
      (∀ (w : Nat) (k : Pool.Worker), p.workers[w]? = some k → k.interpreter = p₀.fresh) ∧
      ∀ (next : Turn) (es : List Event) (s : State) (outcome : CycleOutcome),
        next.task.steps? (Cycle.start p) es = some s → s.stage = .ended outcome →
        .deadline ∉ es → next.isOut p₀ = false →
        s.answer = some (next.search next.alert.search).result →
        (∀ told, s.told = some told → Pool.isLoss told = false) →
        CycleRunner.EndsLike (next.search next.alert.search) s (next.on p₀) := by
  obtain ⟨i, hsize, rfl⟩ := Pool.eq_new_of_create hp
  have hrest := Pool.atRest_new hsize i
  refine ⟨fun earlier next => next.alike_of_atRest (Turn.atRest_after earlier hrest) hrest, ?_⟩
  intro past p hpast
  have hreach : Pool.Reachable i p := ⟨size, past, hpast⟩
  refine ⟨hreach.isolated.workers, fun next es s outcome hs hended htime hin hanswer halive => ?_⟩
  exact next.endsLike hreach ⟨size, [], rfl⟩ hrest hs hended htime hin hanswer halive

/-- A cycle whose query comes to null, and that writes a record if its condition holds. -/
def Turn.onNull (condition : String) : Turn where
  search := fun _ => ⟨.ok .null, [], ⟨0⟩⟩
  dispatcher := .new none ⟨10⟩
  timeout := ⟨20⟩
  patience := none
  net := .unreachable
  now := 0
  alert := ⟨"siren", 60, ⟨"logs", .null⟩, condition, [.log "up"]⟩

/-- What a script binds, and what it makes of `result`, the next one does not see. -/
theorem history_independent_rebound :
    let first := Turn.onNull "result = [1]\nname = result\nFalse"
    let second := Turn.onNull "result == None and len(name) == 5"
    ∃ p, Pool.create 1 none = .ok p ∧
      (second.on (Turn.after p [first])).Alike (second.on p) ∧
      (second.on (Turn.after p [first])).logs = [⟨"siren", 0, "up"⟩] := by
  intro first second
  have hsame := (@history_independent 1 none (Pool.new 1 .bare) rfl).1 [first] second
  refine ⟨Pool.new 1 .bare, rfl, hsame, ?_⟩
  rw [hsame.logs]
  decide +kernel

end Lookout
