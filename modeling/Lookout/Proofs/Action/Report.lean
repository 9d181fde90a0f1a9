/-
What a report says of the actions of a dispatch.

The successes are counted, the failures are listed, and whether all went well is asked, each in a
pass of its own over the outcomes.  The passes agree because an outcome is a success exactly if no
failure is made of it, and because a failure that is made of an outcome has all of it: two failures
stand in the order of their outcomes, under the numbers of these.

The text of a list of failures is written failure by failure.  It is the entries of all of them,
joined.
-/
import Lookout.Action.Dispatch
import Lookout.Error.Watch

namespace Lookout

/-! ### One outcome -/

namespace ActionOutcome

/-- A failure is made of the outcome that it is about, and of no other. -/
theorem failure?_eq_some {o : ActionOutcome} {f : ActionFailure} :
    o.failure? = some f ↔ o = ⟨f.index, f.kind, .error f.error⟩ := by
  obtain ⟨index, kind, result⟩ := o
  obtain ⟨index', kind', error⟩ := f
  unfold failure?
  cases result with
  | ok _ => simp
  | error e => simp

theorem isOk_eq (o : ActionOutcome) : o.isOk = !o.failure?.isSome := by
  unfold isOk failure?
  cases o.result with
  | ok _ => rfl
  | error e => rfl

end ActionOutcome

/-! ### The text -/

namespace ActionFailure

theorem text_append_moreText (f : ActionFailure) : ∀ fs : List ActionFailure,
    f.text ++ moreText fs = "; ".intercalate ((f :: fs).map text) := by
  intro fs
  induction fs generalizing f with
  | nil => simp [moreText]
  | cons g fs ih =>
      rw [moreText, List.map_cons, List.map_cons, String.intercalate_cons_cons, ← List.map_cons,
        ← ih g]
      simp only [String.append_assoc]

theorem summary_of_ne_nil {failures : List ActionFailure} (h : failures ≠ []) :
    summary failures = toString failures.length ++ " action(s) failed" ++ ": "
      ++ "; ".intercalate (failures.map text) := by
  cases failures with
  | nil => exact absurd rfl h
  | cons f fs =>
      rw [← text_append_moreText f fs]
      simp only [summary, String.append_assoc]

end ActionFailure

/-! ### The report -/

namespace DispatchReport

variable (r : DispatchReport)

theorem succeeded_add_failures : r.succeeded + r.failures.length = r.outcomes.length := by
  have hok : r.succeeded = r.outcomes.countP fun o => decide ¬ o.failure?.isSome = true :=
    List.countP_congr fun o _ => by simp [o.isOk_eq]
  rw [hok, failures, List.length_filterMap_eq_countP, Nat.add_comm,
    ← List.length_eq_countP_add_countP]

theorem mem_failures {f : ActionFailure} :
    f ∈ r.failures ↔ ⟨f.index, f.kind, .error f.error⟩ ∈ r.outcomes := by
  unfold failures
  simp only [List.mem_filterMap, ActionOutcome.failure?_eq_some, exists_eq_right]

theorem isSuccess_iff : r.isSuccess = true ↔ r.failures = [] := by
  unfold isSuccess failures
  simp [ActionOutcome.isOk_eq, List.filterMap_eq_nil_iff]

theorem toResult_of_failures (h : r.failures ≠ []) : r.toResult = .error r.failures := by
  unfold toResult
  split
  · case _ hnil => exact absurd hnil h
  · rfl

/-- Without failures all actions have succeeded. -/
theorem toResult_of_success (h : r.failures = []) : r.toResult = .ok r.outcomes.length := by
  have hcount := r.succeeded_add_failures
  rw [h, List.length_nil, Nat.add_zero] at hcount
  unfold toResult
  rw [h, hcount]

/-- The outcomes have the numbers from zero on. -/
def Numbered (n : Nat) : Prop :=
  r.outcomes.map (·.index) = List.range n

namespace Numbered

variable {r} {n : Nat}

theorem length (h : r.Numbered n) : r.outcomes.length = n := by
  simpa using congrArg List.length h

/-- An outcome stands at the place that is its number. -/
theorem mem_iff (h : r.Numbered n) {o : ActionOutcome} :
    o ∈ r.outcomes ↔ r.outcomes[o.index]? = some o := by
  constructor
  · intro hmem
    obtain ⟨i, hi⟩ := List.mem_iff_getElem?.mp hmem
    have hindex := congrArg (fun numbers : List Nat => numbers[i]?) h
    simp only [List.getElem?_map, hi, Option.map_some] at hindex
    have hlt := (List.getElem?_eq_some_iff.mp hi).1
    rw [h.length] at hlt
    rw [List.getElem?_range hlt, Option.some.injEq] at hindex
    rw [hindex]
    exact hi
  · exact List.mem_of_getElem?

theorem pairwise_failures (h : r.Numbered n) :
    r.failures.Pairwise fun f g => f.index < g.index := by
  have houtcomes : r.outcomes.Pairwise fun o p => o.index < p.index := by
    rw [← List.pairwise_map, h]
    exact List.pairwise_lt_range
  refine houtcomes.filterMap _ fun o p hlt f hf g hg => ?_
  rw [ActionOutcome.failure?_eq_some] at hf hg
  rwa [hf, hg] at hlt

end Numbered

end DispatchReport

/-- The outcomes of a dispatch have the numbers of its actions. -/
theorem Dispatcher.map_index_outcomes (d : Dispatcher) (net : Network) (c : AlertContext) :
    ∀ (actions : List Action) (first : Nat),
      (d.outcomes net c first actions).map (·.index) = List.range' first actions.length := by
  intro actions
  induction actions with
  | nil => exact fun _ => rfl
  | cons a as ih =>
      intro first
      rw [outcomes, List.map_cons, ih (first + 1), List.length_cons, List.range'_succ]

theorem Dispatcher.numbered_dispatchAll (d : Dispatcher) (net : Network) (c : AlertContext)
    (actions : List Action) : (d.dispatchAll net c actions).report.Numbered actions.length := by
  show (d.outcomes net c 0 actions).map (·.index) = _
  rw [d.map_index_outcomes, List.range_eq_range']

namespace DispatchReport

/-- **A report accounts for every action.**  Each of `n` actions is counted as a success or listed
as a failure; the list has the failures, each as it is in its outcome, in the order of their
numbers; and the result is the number of actions unless there are failures, in which case it is
these.  Their text is how many there are, and an entry for each of them. -/
theorem accounts {r : DispatchReport} {n : Nat} (h : r.Numbered n) :
    r.succeeded + r.failures.length = n ∧
    (∀ f, f ∈ r.failures ↔ r.outcomes[f.index]? = some ⟨f.index, f.kind, .error f.error⟩) ∧
    (r.failures.Pairwise fun f g => f.index < g.index) ∧
    (r.isSuccess = true ↔ r.failures = []) ∧
    (r.failures = [] ↔ r.toResult = .ok n) ∧
    (r.failures ≠ [] → r.toResult = .error r.failures ∧
      (WatchError.actions r.failures).message
        = toString r.failures.length ++ " action(s) failed" ++ ": "
          ++ "; ".intercalate (r.failures.map fun f =>
            "action " ++ toString f.index ++ " (" ++ f.kind.name ++ "): " ++ f.error.message)) := by
  refine ⟨?_, fun f => ?_, h.pairwise_failures, r.isSuccess_iff, ⟨fun hnone => ?_, fun hok => ?_⟩,
    fun hsome => ⟨r.toResult_of_failures hsome, ?_⟩⟩
  · rw [r.succeeded_add_failures, h.length]
  · rw [r.mem_failures, h.mem_iff]
  · rw [r.toResult_of_success hnone, h.length]
  · by_cases hnone : r.failures = []
    · exact hnone
    · rw [r.toResult_of_failures hnone] at hok
      cases hok
  · exact ActionFailure.summary_of_ne_nil hsome

/-- A record, a message without a webhook, a request without a method, and another record. -/
def mixedReport : DispatchReport :=
  ((Dispatcher.new none (.ofSeconds 1)).dispatchAll .unreachable ⟨"disk", 0, .null⟩
    [.log "up", .slack "up", .http ⟨"", "http://pager/", [], ""⟩, .log "down"]).report

theorem accounts_mixed : mixedReport.Numbered 4 ∧
    mixedReport.succeeded + mixedReport.failures.length = 4 ∧
    mixedReport.failures = [⟨1, .slack, .webhookNotConfigured⟩,
      ⟨2, .http, .invalidRequest "invalid HTTP method"⟩] ∧
    mixedReport.failures.Pairwise (fun f g => f.index < g.index) ∧
    mixedReport.toResult = .error mixedReport.failures ∧
    (WatchError.actions mixedReport.failures).message
      = "2 action(s) failed: action 1 (slack): chat webhook endpoint not configured; "
        ++ "action 2 (http): invalid request: invalid HTTP method" := by
  have hnumbered : mixedReport.Numbered 4 := Dispatcher.numbered_dispatchAll ..
  have hfailures : mixedReport.failures = [⟨1, .slack, .webhookNotConfigured⟩,
      ⟨2, .http, .invalidRequest "invalid HTTP method"⟩] := by decide +kernel
  obtain ⟨hcount, -, hordered, -, -, hresult⟩ := accounts hnumbered
  obtain ⟨hfailed, htext⟩ := hresult (by rw [hfailures]; exact List.cons_ne_nil _ _)
  refine ⟨hnumbered, hcount, hfailures, hordered, hfailed, htext.trans ?_⟩
  rw [hfailures]
  decide +kernel

end DispatchReport

end Lookout
