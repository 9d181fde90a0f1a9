/-
The actions of a cycle, in whatever order they begin and end.

What has been sent and written so far is what the actions that have begun send and write, up to
order; and once all of them have ended, the outcomes are those of the actions carried out one
by one.
-/
import Mathlib.Data.List.Perm.Basic
import Lookout.Cycle.Step

namespace Lookout.Cycle

open CycleTask

section Parts

variable {β : Type} (run : Action → ActionRun) (part : ActionRun → List β)

/-- A part of what the actions that have begun did. -/
def begunParts : List Action → List ActionStage → List β
  | _ :: as, .due :: ss => begunParts as ss
  | a :: as, _ :: ss => part (run a) ++ begunParts as ss
  | _, _ => []

theorem begunParts_due :
    ∀ actions : List Action, begunParts run part actions (actions.map fun _ => .due) = [] := by
  intro actions
  induction actions with
  | nil => rfl
  | cons a as ih => exact ih

/-- An action that begins adds its own part. -/
theorem begunParts_begin : ∀ (actions : List Action) (stages : List ActionStage) (i : Nat)
    (a : Action), actions[i]? = some a → stages[i]? = some .due →
      (begunParts run part actions (stages.set i .begun)).Perm
        (begunParts run part actions stages ++ part (run a)) := by
  intro actions
  induction actions with
  | nil => intro stages i a ha; cases ha
  | cons b as ih =>
      intro stages i a ha hs
      cases stages with
      | nil => cases hs
      | cons s ss =>
          cases i with
          | zero =>
              cases ha
              cases hs
              exact List.perm_append_comm
          | succ i =>
              have hrest := ih ss i a ha hs
              cases s with
              | due => exact hrest
              | begun => exact (hrest.append_left _).trans (.of_eq (List.append_assoc ..).symm)
              | done result =>
                  exact (hrest.append_left _).trans (.of_eq (List.append_assoc ..).symm)

/-- An action that ends has sent and written all it does when it began. -/
theorem begunParts_end : ∀ (actions : List Action) (stages : List ActionStage) (i : Nat)
    (result : Except ActionError Unit), stages[i]? = some .begun →
      begunParts run part actions (stages.set i (.done result))
        = begunParts run part actions stages := by
  intro actions
  induction actions with
  | nil => intro stages i result _; cases stages <;> cases i <;> rfl
  | cons b as ih =>
      intro stages i result hs
      cases stages with
      | nil => cases hs
      | cons s ss =>
          cases i with
          | zero =>
              cases hs
              rfl
          | succ i =>
              have hrest := ih ss i result hs
              cases s with
              | due => exact hrest
              | begun => exact congrArg (part (run b) ++ ·) hrest
              | done _ => exact congrArg (part (run b) ++ ·) hrest

/-- Once all actions have ended, all of them have begun. -/
theorem begunParts_all : ∀ (actions : List Action) (stages : List ActionStage) (index : Nat)
    (outcomes : List ActionOutcome), outcomes? index actions stages = some outcomes →
      begunParts run part actions stages = (actions.map run).flatMap part := by
  intro actions
  induction actions with
  | nil => intro stages index outcomes _; cases stages <;> rfl
  | cons b as ih =>
      intro stages index outcomes ho
      cases stages with
      | nil => cases ho
      | cons s ss =>
          cases s with
          | due => cases ho
          | begun => cases ho
          | done result =>
              obtain ⟨rest, hrest, -⟩ := Option.bind_eq_some_iff.mp ho
              exact congrArg (part (run b) ++ ·) (ih ss (index + 1) rest hrest)

end Parts

/-- The actions of a cycle have come so far, and have sent and written so much. -/
structure Progress (t : CycleTask) (c : AlertContext) (stages : List ActionStage)
    (sent : List HttpRequest) (logs : List LogRecord) : Prop where
  length : stages.length = t.alert.actions.length
  /-- An action that has ended has the result that it has by itself. -/
  results : ∀ (k : Nat) (a : Action) (result : Except ActionError Unit),
    t.alert.actions[k]? = some a → stages[k]? = some (.done result) →
      result = (t.dispatcher.dispatch t.net c a).result
  sent : sent.Perm
    (begunParts (t.dispatcher.dispatch t.net c) (·.requests) t.alert.actions stages)
  logs : logs.Perm (begunParts (t.dispatcher.dispatch t.net c) (·.logs) t.alert.actions stages)

namespace Progress

variable {t : CycleTask} {c : AlertContext} {stages : List ActionStage}
  {sent : List HttpRequest} {logs : List LogRecord}

theorem start (t : CycleTask) (c : AlertContext) :
    Progress t c (t.alert.actions.map fun _ => .due) [] [] where
  length := List.length_map ..
  results := fun k a result _ hk => by
    rw [List.getElem?_map] at hk
    obtain ⟨_, -, hdue⟩ := Option.map_eq_some_iff.mp hk
    cases hdue
  sent := by rw [begunParts_due]
  logs := by rw [begunParts_due]

/-- A result that is there after a stage was set was there before, or is the one that was
set. -/
theorem result_of_set {stages : List ActionStage} {i k : Nat} {new : ActionStage}
    {result : Except ActionError Unit} (hk : (stages.set i new)[k]? = some (.done result)) :
    (k = i ∧ new = .done result) ∨ stages[k]? = some (.done result) := by
  rw [List.getElem?_set] at hk
  split at hk
  · case isTrue heq =>
    split at hk
    · exact Or.inl ⟨heq.symm, Option.some.inj hk⟩
    · cases hk
  · exact Or.inr hk

theorem beginAction (h : Progress t c stages sent logs) {i : Nat} {a : Action}
    (ha : t.alert.actions[i]? = some a) (hs : stages[i]? = some .due) :
    Progress t c (stages.set i .begun)
      (sent ++ (t.dispatcher.dispatch t.net c a).requests)
      (logs ++ (t.dispatcher.dispatch t.net c a).logs) where
  length := by rw [List.length_set]; exact h.length
  results := fun k b result hb hk => by
    rcases result_of_set hk with ⟨-, hnew⟩ | hold
    · cases hnew
    · exact h.results k b result hb hold
  sent := (h.sent.append_right _).trans (begunParts_begin _ _ _ _ _ _ ha hs).symm
  logs := (h.logs.append_right _).trans (begunParts_begin _ _ _ _ _ _ ha hs).symm

theorem endAction (h : Progress t c stages sent logs) {i : Nat} {a : Action}
    (ha : t.alert.actions[i]? = some a) (hs : stages[i]? = some .begun) :
    Progress t c (stages.set i (.done (t.dispatcher.dispatch t.net c a).result)) sent logs where
  length := by rw [List.length_set]; exact h.length
  results := fun k b result hb hk => by
    rcases result_of_set hk with ⟨rfl, hnew⟩ | hold
    · cases hnew
      rw [Option.some.inj (ha.symm.trans hb)]
    · exact h.results k b result hb hold
  sent := by rw [begunParts_end _ _ _ _ _ _ hs]; exact h.sent
  logs := by rw [begunParts_end _ _ _ _ _ _ hs]; exact h.logs

end Progress

/-- The outcomes of actions that have all ended are those of the actions one by one. -/
theorem outcomes_of_results (d : Dispatcher) (net : Network) (c : AlertContext) :
    ∀ (actions : List Action) (stages : List ActionStage) (index : Nat)
      (outcomes : List ActionOutcome), outcomes? index actions stages = some outcomes →
      (∀ (k : Nat) (a : Action) (result : Except ActionError Unit), actions[k]? = some a →
        stages[k]? = some (.done result) → result = (d.dispatch net c a).result) →
      outcomes = d.outcomes net c index actions := by
  intro actions
  induction actions with
  | nil =>
      intro stages index outcomes ho _
      cases stages with
      | nil => cases ho; rfl
      | cons s ss => cases ho
  | cons b as ih =>
      intro stages index outcomes ho hresults
      cases stages with
      | nil => cases ho
      | cons s ss =>
          cases s with
          | due => cases ho
          | begun => cases ho
          | done result =>
              obtain ⟨rest, hrest, hcons⟩ := Option.bind_eq_some_iff.mp ho
              cases hcons
              rw [hresults 0 b result rfl rfl, ih ss (index + 1) rest hrest fun k a r ha hs =>
                hresults (k + 1) a r ha hs]
              rfl

/-- **Once all actions of a cycle have ended**, the report is the one of its dispatch, and what
was sent and written is what the dispatch sends and writes, in some order. -/
theorem Progress.all {t : CycleTask} {c : AlertContext} {stages : List ActionStage}
    {sent : List HttpRequest} {logs : List LogRecord} {outcomes : List ActionOutcome}
    (h : Progress t c stages sent logs)
    (ho : outcomes? 0 t.alert.actions stages = some outcomes) :
    ⟨outcomes⟩ = (t.dispatcher.dispatchAll t.net c t.alert.actions).report ∧
      sent.Perm (t.dispatcher.dispatchAll t.net c t.alert.actions).requests ∧
      logs.Perm (t.dispatcher.dispatchAll t.net c t.alert.actions).logs := by
  refine ⟨?_, ?_, ?_⟩
  · rw [outcomes_of_results t.dispatcher t.net c _ _ _ _ ho h.results]
    rfl
  · have hall := h.sent
    rw [begunParts_all _ _ _ _ _ _ ho] at hall
    exact hall
  · have hall := h.logs
    rw [begunParts_all _ _ _ _ _ _ ho] at hall
    exact hall

end Lookout.Cycle
