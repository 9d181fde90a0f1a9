/-
No cycle acts on anything but a condition that holds.

A cycle can end because its deadline passes, wherever it waits; if it does not, it ends as what
its query came to and what it was told about its condition make it end, and in no other way.
Whichever it is, an action has been begun only if the query had succeeded and the condition had
been run to its end on the result of that query and had held.
-/
import Lookout.Proofs.Cycle.Ends
import Lookout.Proofs.Cycle.Run
import Lookout.Proofs.Script.Finish

namespace Lookout

open Script (Interpreter Outcome)
open Lookout.Cycle (Stage State Event)
open Pool (AtRest)

variable {t : CycleTask} {s s' : State} {outcome : CycleOutcome}

namespace CycleTask

/-! ### The report -/

theorem getElem?_outcomes (d : Dispatcher) (net : Network) (c : AlertContext) :
    ∀ (actions : List Action) (index n : Nat),
      (d.outcomes net c index actions)[n]? = actions[n]?.map fun a =>
        ⟨index + n, a.kind, (d.dispatch net c a).result⟩ := by
  intro actions
  induction actions with
  | nil => exact fun _ _ => rfl
  | cons a as ih =>
      intro index n
      cases n with
      | zero => rfl
      | succ n =>
          unfold Dispatcher.outcomes
          rw [List.getElem?_cons_succ, List.getElem?_cons_succ, ih, Nat.add_right_comm,
            Nat.add_assoc]

/-- A report has an outcome for every action, in the order of the alert's list. -/
theorem report_complete {answer : Option (Except QueryError Value)}
    {told : Option (Except EvalError Outcome)} {report : DispatchReport}
    (h : t.conclusion? answer told = some (.matched report)) (n : Nat) :
    report.outcomes[n]?.map (fun o => (o.index, o.kind))
      = t.alert.actions[n]?.map fun a => (n, a.kind) := by
  unfold conclusion? at h
  split at h
  · cases h
  · cases h
  · case _ v o =>
    split at h
    · cases h
      unfold dispatch Dispatcher.dispatchAll
      dsimp only
      rw [getElem?_outcomes, Option.map_map]
      simp only [Nat.zero_add]
      rfl
    · cases h
  · cases h

/-- A cycle that ends by itself is not late. -/
theorem conclusion?_ne_timeout {answer : Option (Except QueryError Value)}
    {told : Option (Except EvalError Outcome)} (h : t.conclusion? answer told = some outcome) :
    outcome ≠ .failed (.timeout t.timeout) := by
  unfold conclusion? at h
  rintro rfl
  split at h
  · cases h
  · cases h
  · split at h
    · cases h
    · cases h
  · cases h

end CycleTask

/-! ### A cycle that has its pool for itself -/

namespace CycleRunner

/-- Whether the time of a cycle is up before it comes to its end: in its query, while its
condition runs, or before its actions have ended. -/
def isOut (r : CycleRunner) (net : Network) (now : Nat) (alert : AlertDefinition) : Bool :=
  let query := r.search alert.search
  r.isLate query.took || match query.result with
    | .error _ => false
    | .ok v =>
      let c : AlertContext := ⟨alert.name, now, v⟩
      match (r.pool.evaluate r.patience ⟨alert.condition, c⟩).1 with
      | .gaveUp => true
      | .answered (.error _) => false
      | .answered (.ok o) =>
        let dispatch := r.dispatcher.dispatchAll net (c.withResult o.result) alert.actions
        o.matched && r.isLate ⟨query.took.nanoseconds + dispatch.took.nanoseconds⟩

/-- What is safe about a cycle that is run from its start to its end, whatever the state of its
pool. -/
structure SafeRun (r : CycleRunner) (net : Network) (now : Nat) (alert : AlertDefinition) :
    Prop where
  /-- It ends with its deadline if its time is up, and otherwise as its query and its condition
  make it end. -/
  ends : (r.isOut net now alert = true ∧
        (r.run net now alert).outcome = .failed (.timeout r.timeout)) ∨
      (r.isOut net now alert = false ∧
        (r.task net now alert).conclusion? (some (r.search alert.search).result)
            ((r.run net now alert).condition.bind (·.told?))
          = some (r.run net now alert).outcome)
  /-- The condition is run only on the result of a query that succeeded. -/
  asked : (r.run net now alert).condition ≠ none → ∃ v, (r.search alert.search).result = .ok v
  /-- Something is sent beyond the query, or written, only if the condition holds. -/
  loud : (r.run net now alert).requests ≠ (r.search alert.search).requests ∨
      (r.run net now alert).logs ≠ [] →
    ∃ o, (r.run net now alert).condition = some (.answered (.ok o)) ∧ o.matched = true

/-- A cycle of a runner ends in time and with an answer, or late, whatever the state of its
pool. -/
theorem safe_run (r : CycleRunner) (net : Network) (now : Nat) (alert : AlertDefinition) :
    r.SafeRun net now alert := by
  suffices h : _ ∧ _ ∧ _ from ⟨h.1, h.2.1, h.2.2⟩
  unfold isOut run
  dsimp only
  cases hlate : r.isLate (r.search alert.search).took with
  | true => simp [failAtQuery]
  | false =>
      simp only [Bool.false_eq_true, if_false, Bool.false_or]
      cases hresult : (r.search alert.search).result with
      | error e => simp [failAtQuery, CycleTask.conclusion?]
      | ok v =>
          simp only [judge]
          cases heval : (r.pool.evaluate r.patience ⟨alert.condition, ⟨alert.name, now, v⟩⟩).1 with
          | gaveUp => simp [endAtCondition]
          | answered told =>
              cases told with
              | error e =>
                  simp [endAtCondition, heval, CycleTask.conclusion?, Pool.Evaluation.told?]
              | ok o =>
                  cases hmatched : o.matched with
                  | false =>
                      simp [endAtCondition, heval, hmatched, CycleTask.conclusion?,
                        Pool.Evaluation.told?]
                  | true =>
                      simp only [hmatched, if_true, Bool.true_and, act]
                      refine ⟨?_, fun _ => ⟨v, rfl⟩, fun _ => ⟨o, by rw [heval], hmatched⟩⟩
                      split
                      · case isTrue hout => exact Or.inl ⟨hout, rfl⟩
                      · case isFalse hout =>
                        rw [heval]
                        exact Or.inr ⟨Bool.eq_false_iff.mpr hout,
                          CycleTask.conclusion?_matched hmatched⟩

end CycleRunner

/-! ### Safety -/

namespace Cycle

/-- What is safe about a cycle that has come to a state by some steps, on a pool whose workers
start with an interpreter. -/
structure Safe (i : Interpreter) (t : CycleTask) (es : List Event) (s : State) : Prop where
  /-- If it has ended, it has ended with its deadline if and only if that has passed. -/
  late : ∀ outcome, s.stage = .ended outcome →
    (outcome = .failed (.timeout t.timeout) ↔ .deadline ∈ es)
  /-- If it has ended otherwise, its query and its condition made it end like this. -/
  ended : ∀ outcome, s.stage = .ended outcome → .deadline ∉ es →
    t.conclusion? s.answer s.told = some outcome
  /-- It can end by itself: the deadline can pass once it has done what nothing cuts off. -/
  canEnd : t.CanEnd s
  /-- A report has an outcome for every action. -/
  report : ∀ (report : DispatchReport) (n : Nat), s.stage = .ended (.matched report) →
    report.outcomes[n]?.map (fun o => (o.index, o.kind))
      = t.alert.actions[n]?.map fun a => (n, a.kind)
  /-- The condition is run only on the result of a query that succeeded. -/
  asked : s.job ≠ none ∨ s.told ≠ none → ∃ v, s.answer = some (.ok v)
  /-- What the cycle is told is what its condition comes to, unless the worker is lost. -/
  told : ∀ told, s.told = some told → ∃ v, s.answer = some (.ok v) ∧
    (Pool.isLoss told = true ∨
      ∀ slot, Pool.alone i slot (t.request (t.context v)) = .answered told)
  /-- It is told of an outcome only if the condition came to its end, and left plain data. -/
  finished : ∀ o, s.told = some (.ok o) → ∃ v frame last m, s.answer = some (.ok v) ∧
    i.Finishes t.alert.condition (t.context v) frame last m ∧
    o.matched = m.decided last ∧ m.resultLeft frame = .ok o.result
  /-- A condition that leaves other data is a failure, even if its last statement is true. -/
  unplain : ∀ v frame last m e, s.answer = some (.ok v) →
    i.Finishes t.alert.condition (t.context v) frame last m → m.resultLeft frame = .error e →
    ∀ told, s.told = some told →
      Pool.isLoss told = true ∨ told = .error (.trouble (.notPlain e))
  /-- Something is sent or written, late or not, only if the condition holds. -/
  loud : s.sent ≠ [] ∨ s.logs ≠ [] → ∃ v o, s.answer = some (.ok v) ∧ s.told = some (.ok o) ∧
    o.matched = true ∧ (i.run none t.alert.condition (t.context v)).1 = .ok o

variable {i : Interpreter} {es : List Event} {p : Pool}

/-- What a job comes to by itself is an outcome only if a full run has that outcome. -/
theorem run_of_alone {slot : Nat} {request : EvalRequest} {o : Outcome}
    (h : Pool.alone i slot request = .answered (.ok o)) :
    (i.run none request.script request.context).1 = .ok o := by
  unfold Pool.alone Pool.Evaluation.ofRun at h
  split at h
  · cases h
  · cases h
  · cases hrun : (i.run none request.script request.context).1 with
    | error e => rw [hrun] at h; cases h
    | ok o' => rw [hrun] at h; cases h; rfl

theorem Sound.ended_of_in_time (h : Sound i t s) (hended : s.stage = .ended outcome)
    (htime : outcome ≠ .failed (.timeout t.timeout)) :
    t.conclusion? s.answer s.told = some outcome := by
  have hfacts := h.stage
  rw [hended] at hfacts
  exact (hfacts.resolve_left htime).1

/-- An outcome that the cycle is told of is the one of a full run on the result of its query. -/
theorem Sound.run_of_told (h : Sound i t s) {o : Outcome} (ho : s.told = some (.ok o)) :
    ∃ v, s.answer = some (.ok v) ∧ (i.run none t.alert.condition (t.context v)).1 = .ok o := by
  obtain ⟨v, hv, hloss | halone⟩ := h.told _ ho
  · cases hloss
  · have hrun := run_of_alone (halone 0)
    exact ⟨v, hv, hrun⟩

theorem safe_of_steps? (hp : Pool.Reachable i p) (hs : t.steps? (start p) es = some s) :
    Safe i t es s := by
  have hsound := sound_of_steps? hp hs
  have hlate := CycleTask.late_iff es hs (start_ne_late p)
  have hinTime : ∀ {outcome}, s.stage = .ended outcome →
      (outcome = .failed (.timeout t.timeout) ↔ .deadline ∈ es) := by
    intro outcome hended
    rw [← hlate, hended]
    exact CycleTask.ended_eq_late.symm
  refine ⟨fun _ => hinTime, fun outcome hended hnot => ?_, hsound.canEnd,
    fun report n hended => ?_, fun hsome => ?_, hsound.told, fun o ho => ?_,
    fun v frame last m e hv hfin hleft told htold => ?_, fun hloud => ?_⟩
  · exact hsound.ended_of_in_time hended fun h => hnot ((hinTime hended).mp h)
  · refine CycleTask.report_complete (hsound.ended_of_in_time hended ?_) n
    exact fun h => by cases h
  · rcases hsome with hjob | htold
    · exact hsound.job (Option.isSome_iff_ne_none.mpr hjob)
    · obtain ⟨told, htold⟩ := Option.ne_none_iff_exists'.mp htold
      obtain ⟨v, hv, -⟩ := hsound.told told htold
      exact ⟨v, hv⟩
  · obtain ⟨v, hv, hrun⟩ := hsound.run_of_told ho
    obtain ⟨frame, last, m, hfin, hmatched, hleft⟩ := Interpreter.finishes_of_run hrun
    exact ⟨v, frame, last, m, hv, hfin, hmatched, hleft⟩
  · obtain ⟨v', hv', hloss | halone⟩ := hsound.told _ htold
    · exact Or.inl hloss
    · rw [hv] at hv'
      cases hv'
      have htold := halone 0
      have hrun : (i.run none (t.request (t.context v)).script (t.request (t.context v)).context).1
          = .error (.notPlain e) := hfin.run_unplain hleft
      unfold Pool.alone at htold
      rw [hrun] at htold
      cases htold
      exact Or.inr rfl
  · obtain ⟨o, ho, hmatched⟩ := hsound.quiet hloud
    obtain ⟨v, hv, hrun⟩ := hsound.run_of_told ho
    exact ⟨v, o, hv, ho, hmatched, hrun⟩

end Cycle

/-- **A cycle acts only on a condition that holds, and ends in one of five ways.**  This is so on
a pool in any state that it can be in, for any steps of the cycle with the steps of others in
between, and wherever the deadline passes; and it can end from every state on its way.  It is so
as well for a cycle that is run from its start to its end; and if nobody else uses its pool
meanwhile, or no slot is left, that is one sequence of such steps. -/
theorem cycle_safe {size : Nat} {i : Interpreter} {past : List Pool.Event} {p : Pool}
    (hp : (Pool.new size i).steps? past = some p) :
    (∀ (t : CycleTask) (es : List Event) (s : State), t.steps? (Cycle.start p) es = some s →
      Cycle.Safe i t es s) ∧
    (∀ (r : CycleRunner) (net : Network) (now : Nat) (alert : AlertDefinition),
      r.SafeRun net now alert ∧
      (r.pool = p → (∃ top, AtRest i top p) ∨ p.permits = 0 →
        ∃ es s, (r.task net now alert).steps? (Cycle.start p) es = some s ∧
          CycleRunner.SameEnd (r.search alert.search) s (r.run net now alert))) := by
  refine ⟨fun t es s hs => Cycle.safe_of_steps? ⟨size, past, hp⟩ hs, fun r net now alert =>
    ⟨r.safe_run net now alert, ?_⟩⟩
  rintro rfl (⟨top, hrest⟩ | hfull)
  · exact r.run_is_steps net now alert (Or.inl ⟨i, top, hrest⟩)
  · exact r.run_is_steps net now alert (Or.inr hfull)

/-- A cycle that is about to write a record whatever its query comes to. -/
def siren : CycleTask where
  alert := ⟨"siren", 60, ⟨"logs", .null⟩, "True", [.log "up"]⟩
  now := 0
  dispatcher := .new none ⟨10⟩
  net := .unreachable
  timeout := ⟨20⟩

/-- The deadline passes right after the record was written. -/
def cutShort : List Event :=
  [.answer (.ok .null), .takePermit, .popSlot, .send, .elsewhere (.start 0),
    .elsewhere (.finish 0 none), .receive, .beginAction 0, .deadline]

/-- A late cycle may have written its record, but then its condition holds. -/
theorem cycle_safe_cutShort :
    ∃ s, siren.steps? (Cycle.start (Pool.new 1 Interpreter.bare)) cutShort = some s ∧
      s.stage = siren.late ∧ s.logs = [⟨"siren", 0, "up"⟩] ∧
      ∃ v o, s.answer = some (.ok v) ∧ s.told = some (.ok o) ∧ o.matched = true ∧
        (Interpreter.bare.run none "True" (siren.context v)).1 = .ok o := by
  have hruns : (siren.steps? (Cycle.start (Pool.new 1 Interpreter.bare)) cutShort).map (·.logs)
      = some [⟨"siren", 0, "up"⟩] := by decide +kernel
  obtain ⟨s, hs, hlogs⟩ := Option.map_eq_some_iff.mp hruns
  have hsafe := (@cycle_safe 1 .bare [] _ rfl).1 siren cutShort s hs
  have hlate : s.stage = siren.late :=
    (CycleTask.late_iff cutShort hs (Cycle.start_ne_late _)).mpr (by simp [cutShort])
  refine ⟨s, hs, hlate, hlogs, hsafe.loud (Or.inr ?_)⟩
  rw [hlogs]
  exact List.cons_ne_nil _ _

end Lookout
