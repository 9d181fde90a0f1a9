/-
The report of actions that were under way together.

A run of such actions cannot get stuck before the report is there, and no run is longer than two
steps for each action.  The report has the outcomes of the single actions, each in its place, and
is the same in whatever order the steps came; so the report of two lists in a row is the report of
the one and, further down, that of the other.
-/
import Lookout.Proofs.Cycle.Gather
import Lookout.Proofs.Cycle.Safety

namespace Lookout

open Lookout.Cycle (ActionStage outcomes?)

/-! ### Outcomes of two lists in a row -/

/-- An outcome further down a list. -/
def ActionOutcome.shift (k : Nat) (o : ActionOutcome) : ActionOutcome :=
  { o with index := k + o.index }

namespace Dispatcher

theorem outcomes_shift (d : Dispatcher) (net : Network) (c : AlertContext) (k : Nat) :
    ∀ (actions : List Action) (index : Nat),
      d.outcomes net c (k + index) actions =
        (d.outcomes net c index actions).map (ActionOutcome.shift k) := by
  intro actions
  induction actions with
  | nil => exact fun _ => rfl
  | cons a as ih =>
      intro index
      unfold outcomes
      rw [List.map_cons, ← ih, Nat.add_assoc]
      rfl

/-- The outcomes of two lists in a row are those of the first one and, further down, those of the
second. -/
theorem outcomes_append (d : Dispatcher) (net : Network) (c : AlertContext) (ys : List Action) :
    ∀ (xs : List Action) (index : Nat),
      d.outcomes net c index (xs ++ ys) =
        d.outcomes net c index xs ++ d.outcomes net c (xs.length + index) ys := by
  intro xs
  induction xs with
  | nil =>
      intro index
      rw [List.nil_append, List.length_nil, Nat.zero_add]
      rfl
  | cons a as ih =>
      intro index
      have rest := ih (index + 1)
      rw [← Nat.add_assoc, Nat.add_right_comm, ← List.length_cons] at rest
      exact congrArg (⟨index, a.kind, (d.dispatch net c a).result⟩ :: ·) rest

end Dispatcher

namespace Gathering

variable {g : Gathering} {s s' : State} {e : Event} {es : List Event} {report : DispatchReport}

/-! ### Until the report is there -/

/-- How many steps an action still takes at most. -/
def Stage.left : Stage → Nat
  | due => 2
  | waiting _ => 1
  | done _ => 0

/-- How many steps some actions still take at most. -/
def leftOf : List Stage → Nat
  | [] => 0
  | stage :: stages => stage.left + leftOf stages

theorem leftOf_start (g : Gathering) : leftOf g.start.stages = 2 * g.actions.length := by
  unfold start
  induction g.actions with
  | nil => rfl
  | cons a as ih =>
      dsimp only at ih ⊢
      rw [List.map_cons, List.length_cons]
      simp only [leftOf, Stage.left, ih]
      omega

theorem leftOf_set {old : Stage} (new : Stage) : ∀ {stages : List Stage} {i : Nat},
    stages[i]? = some old → leftOf (stages.set i new) + old.left = leftOf stages + new.left := by
  intro stages
  induction stages with
  | nil =>
      intro i stage
      cases stage
  | cons first rest ih =>
      intro i stage
      cases i with
      | zero =>
          cases stage
          simp only [List.set_cons_zero, leftOf]
          omega
      | succ i =>
          have later := ih stage
          simp only [List.set_cons_succ, leftOf]
          omega

theorem Moves.leftOf_lt (moves : Moves g s e s') : leftOf s'.stages < leftOf s.stages := by
  cases moves with
  | @finished i a result logs action stage opens =>
      have change := leftOf_set (.done result) stage
      simp only [Stage.left] at change ⊢
      omega
  | @asks i a request action stage opens =>
      have change := leftOf_set (.waiting request) stage
      simp only [Stage.left] at change ⊢
      omega
  | @answered i a request action stage =>
      have change := leftOf_set
        (.done (Dispatcher.closing a (g.net.send g.dispatcher.timeout request).result)) stage
      simp only [Stage.left] at change ⊢
      omega

theorem leftOf_steps : ∀ {es : List Event} {s : State}, g.steps? s es = some s' →
    leftOf s'.stages + es.length ≤ leftOf s.stages := by
  intro es
  induction es with
  | nil =>
      intro s run
      cases run
      exact Nat.le_refl _
  | cons e es ih =>
      intro s run
      rw [steps?_cons] at run
      obtain ⟨next, taken, rest⟩ := Option.bind_eq_some_iff.mp run
      have less := (moves_of_step? taken).leftOf_lt
      have later := ih rest
      rw [List.length_cons]
      omega

/-- The report is there once every action is over. -/
theorem outcomes?_of_done : ∀ (actions : List Action) (stages : List Stage) (index : Nat),
    stages.length = actions.length → (∀ stage ∈ stages, ∃ result, stage = .done result) →
      ∃ outcomes, outcomes? index actions (stages.map Stage.coarse) = some outcomes := by
  intro actions
  induction actions with
  | nil =>
      intro stages index length _
      cases stages with
      | nil => exact ⟨[], rfl⟩
      | cons stage stages => cases length
  | cons a as ih =>
      intro stages index length done
      cases stages with
      | nil => cases length
      | cons stage stages =>
          obtain ⟨result, rfl⟩ := done stage List.mem_cons_self
          obtain ⟨rest, hrest⟩ := ih stages (index + 1) (Nat.succ.inj length)
            fun stage mem => done stage (List.mem_cons_of_mem _ mem)
          refine ⟨⟨index, a.kind, result⟩ :: rest, ?_⟩
          rw [List.map_cons]
          unfold outcomes?
          simp only [Stage.coarse, ActionStage.result?, hrest]
          rfl

/-- Only when every action is over is the report there. -/
theorem done_of_outcomes? : ∀ {actions : List Action} {stages : List Stage} {index n : Nat}
    {outcomes : List ActionOutcome} {a : Action},
    outcomes? index actions (stages.map Stage.coarse) = some outcomes → actions[n]? = some a →
      ∃ result, stages[n]? = some (.done result) := by
  intro actions
  induction actions with
  | nil =>
      intro stages index n outcomes a _ action
      cases action
  | cons b as ih =>
      intro stages index n outcomes a there action
      cases stages with
      | nil => cases there
      | cons stage stages =>
          cases stage with
          | due => cases there
          | waiting request => cases there
          | done result =>
              cases n with
              | zero => exact ⟨result, rfl⟩
              | succ n =>
                  obtain ⟨rest, hrest, -⟩ := Option.bind_eq_some_iff.mp there
                  have inner := ih hrest action
                  exact inner

/-- As long as the report is not there, something can happen. -/
theorem Reached.progress (h : Reached g es s) (waits : g.report? s = none) :
    ∃ e s', g.step? s e = some s' := by
  by_contra stuck
  have done : ∀ stage ∈ s.stages, ∃ result, stage = .done result := by
    intro stage mem
    obtain ⟨i, bound, rfl⟩ := List.mem_iff_getElem.mp mem
    have hstage : s.stages[i]? = some s.stages[i] := List.getElem?_eq_getElem bound
    obtain ⟨a, action⟩ : ∃ a, g.actions[i]? = some a := by
      rw [h.length] at bound
      exact ⟨_, List.getElem?_eq_getElem bound⟩
    cases hs : s.stages[i] with
    | done result => exact ⟨result, rfl⟩
    | due =>
        rw [hs] at hstage
        exfalso
        apply stuck
        refine ⟨.begins i, opened i s (g.dispatcher.opening g.context a), ?_⟩
        unfold step?
        simp only [action, hstage]
    | waiting request =>
        rw [hs] at hstage
        exfalso
        apply stuck
        refine ⟨.answered i, ⟨s.stages.set i (.done (Dispatcher.closing a
          (g.net.send g.dispatcher.timeout request).result)), s.sent, s.logs⟩, ?_⟩
        unfold step?
        simp only [action, hstage]
  obtain ⟨outcomes, there⟩ := outcomes?_of_done g.actions s.stages 0 h.length done
  unfold report? at waits
  rw [there] at waits
  cases waits

/-! ### The report -/

/-- A run that brings the report. -/
def Gathers (g : Gathering) (es : List Event) (s : State) (report : DispatchReport) : Prop :=
  g.steps? g.start es = some s ∧ g.report? s = some report

/-- What a report is, and what was done for it, if no action sees another one. -/
structure AsAlone (g : Gathering) (es : List Event) (s : State) (report : DispatchReport) :
    Prop where
  /-- The report has the outcomes of the single actions, each in its place. -/
  outcome : ∀ n, report.outcomes[n]? =
    g.actions[n]?.map fun a => (⟨n, a.kind, (g.alone a).result⟩ : ActionOutcome)
  all : report = (g.dispatcher.dispatchAll g.net g.context g.actions).report
  /-- Every action has begun once, and was answered once if it sends a request. -/
  once : ∀ n a, g.actions[n]? = some a →
    es.count (.begins n) = 1 ∧ es.count (.answered n) = (g.alone a).requests.length
  nothingElse : ∀ n, g.actions[n]? = none →
    es.count (.begins n) = 0 ∧ es.count (.answered n) = 0
  sent : s.sent.Perm (g.actions.flatMap fun a => (g.alone a).requests)
  logs : s.logs.Perm (g.actions.flatMap fun a => (g.alone a).logs)
  /-- The report of two lists in a row is that of the first and, further down, that of the
  second, whatever the runs were that brought them. -/
  appended : ∀ xs ys fs hs sx sy rx ry, g.actions = xs ++ ys →
    Gathers { g with actions := xs } fs sx rx → Gathers { g with actions := ys } hs sy ry →
      report.outcomes = rx.outcomes ++ ry.outcomes.map (ActionOutcome.shift xs.length)

theorem Reached.outcomes (h : Reached g es s) (there : g.report? s = some report) :
    report.outcomes = g.dispatcher.outcomes g.net g.context 0 g.actions := by
  obtain ⟨outcomes, houtcomes, rfl⟩ := Option.map_eq_some_iff.mp there
  refine Cycle.outcomes_of_results _ _ _ _ _ _ _ houtcomes ?_
  intro n a result action stage
  rw [List.getElem?_map] at stage
  obtain ⟨fine, hfine, coarse⟩ := Option.map_eq_some_iff.mp stage
  cases fine with
  | due => cases coarse
  | waiting request => cases coarse
  | done result =>
      cases coarse
      exact (h.came n a _ action hfine).done.1

theorem Gathers.outcomes (h : Gathers g es s report) :
    report.outcomes = g.dispatcher.outcomes g.net g.context 0 g.actions :=
  ((Reached.start g).steps h.1).outcomes h.2

theorem Reached.asAlone (h : Reached g es s) (there : g.report? s = some report) :
    AsAlone g es s report := by
  have outcomes := h.outcomes there
  obtain ⟨found, hfound, -⟩ := Option.map_eq_some_iff.mp there
  refine ⟨?_, ?_, ?_, h.outside, ?_, ?_, ?_⟩
  · intro n
    rw [outcomes, CycleTask.getElem?_outcomes]
    simp only [Nat.zero_add]
    rfl
  · cases report
    cases outcomes
    rfl
  · intro n a action
    obtain ⟨result, stage⟩ := done_of_outcomes? hfound action
    exact (h.came n a _ action stage).done.2
  · have sent := h.sent
    rw [Cycle.begunParts_all _ _ _ _ _ _ hfound, List.flatMap_map] at sent
    exact sent
  · have logs := h.logs
    rw [Cycle.begunParts_all _ _ _ _ _ _ hfound, List.flatMap_map] at logs
    exact logs
  · intro xs ys fs hs sx sy rx ry both first second
    rw [outcomes, both, Dispatcher.outcomes_append, Dispatcher.outcomes_shift, first.outcomes,
      second.outcomes]

/-- **Actions that are carried out together come to what they come to one by one.**  However the
steps of the actions alternate, the run ends within two steps for each action, is never stuck
before the report is there, and the report and what was done for it are those of the single
actions. -/
theorem gathered_alone (run : g.steps? g.start es = some s) :
    es.length ≤ 2 * g.actions.length ∧
      (g.report? s = none → ∃ e s', g.step? s e = some s') ∧
      ∀ report, g.report? s = some report → AsAlone g es s report := by
  have reached : Reached g es s := (Reached.start g).steps run
  have left := leftOf_steps run
  rw [leftOf_start] at left
  refine ⟨?_, reached.progress, fun report there => reached.asAlone there⟩
  omega

/-- A request that is answered too late, a record, a message that arrives, and one without text. -/
def mixed : Gathering where
  dispatcher := ⟨some "http://chat/", ⟨100⟩⟩
  net := fun request =>
    if request.method = "POST" then ⟨⟨5⟩, some ⟨503, ""⟩⟩ else ⟨⟨100⟩, none⟩
  context := ⟨"disk full", 0, .null⟩
  actions := [.http ⟨"GET", "http://down/", [], ""⟩, .log "full", .slack "hi", .slack ""]

/-- The steps of the mixed actions, the last of which begins first. -/
def mixedSteps : List Event :=
  [.begins 3, .begins 2, .begins 0, .answered 2, .begins 1, .answered 0]

/-- The mixed actions, out of order and with failures of several kinds, come to what they come to
one by one. -/
theorem gathered_alone_mixed :
    ∃ s report, mixed.steps? mixed.start mixedSteps = some s ∧
      mixed.report? s = some report ∧ AsAlone mixed mixedSteps s report ∧
      report.outcomes.map (·.isOk) = [false, true, true, false] ∧
      s.sent.map (·.method) = ["POST", "GET"] := by
  have seen : (mixed.steps? mixed.start mixedSteps).map (fun s =>
      ((mixed.report? s).map fun report => report.outcomes.map (·.isOk), s.sent.map (·.method))) =
        some (some [false, true, true, false], ["POST", "GET"]) := by
    decide +kernel
  obtain ⟨s, run, both⟩ := Option.map_eq_some_iff.mp seen
  obtain ⟨hreport, hsent⟩ := Prod.mk.inj both
  obtain ⟨report, there, outcomes⟩ := Option.map_eq_some_iff.mp hreport
  exact ⟨s, report, run, there, (gathered_alone run).2.2 report there, outcomes, hsent⟩

end Gathering

end Lookout
