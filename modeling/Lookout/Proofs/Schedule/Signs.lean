/-
The cycles of one task, whatever happens in whatever order.

Ticks, the shutdown, the steps of a cycle and those of others can come in any order that is
possible.  What can be seen of the cycles meanwhile are their signs: a start, a step, an end.
`Signed` says that these signs are whole cycles one behind the other, each of them a run of the
cycle by itself, with at most one at the end that is still on its way.  It is carried along a run
together with the order of the task, which knows the numbers of the cycles and their moments.

A shutdown is seen by nothing but the look of a waiting task, so it takes nothing from a cycle on
its way.
-/
import Lookout.Proofs.Cycle.Ends
import Lookout.Proofs.Cycle.Run
import Lookout.Proofs.Schedule.Task
import Lookout.Schedule.Step

namespace Lookout

open Script (Interpreter)
open Lookout.Schedule (Work State Event)

namespace Cycle.Stage

theorem outcome?_eq_some {stage : Stage} {outcome : CycleOutcome} :
    stage.outcome? = some outcome ↔ stage = .ended outcome := by
  cases stage <;> simp [outcome?]

end Cycle.Stage

namespace Schedule.Work

/-- A cycle is on its way. -/
def isBusy : Work → Bool
  | idle _ => false
  | busy _ _ => true

theorem eq_idle {w : Work} (h : w.isBusy = false) : w = .idle w.pool := by
  cases w with
  | idle p => rfl
  | busy c state => simp [isBusy] at h

theorem outcome?_eq_some {w : Work} {outcome : CycleOutcome} (h : w.outcome? = some outcome) :
    ∃ c state, w = .busy c state ∧ state.stage = .ended outcome := by
  cases w with
  | idle p => simp [outcome?] at h
  | busy c state => exact ⟨c, state, rfl, Cycle.Stage.outcome?_eq_some.mp h⟩

end Schedule.Work

namespace Routine

variable {r : Routine} {s s' : State}

/-! ### What a step can do -/

theorem step?_shutdown (r : Routine) (s : State) : r.step? s .shutdown = some s.told := rfl

theorem wake_cases {moment now : Nat} {net : Network}
    (hs : r.step? s (.wake moment now net) = some s') :
    s.clock ≤ moment ∧ s.task.phase = .waiting ∧
    ((s.task.shutdown = true ∧ s' = ⟨s.task.stop moment, .idle s.work.pool, moment⟩) ∨
      (s.task.shutdown = false ∧ s.task.ticker.due ≤ moment ∧ s' =
        ⟨s.task.start moment, .busy (r.cycle now net) (Cycle.start s.work.pool), moment⟩)) := by
  unfold step? at hs
  by_cases hclock : s.clock ≤ moment
  · simp only [hclock, if_true] at hs
    obtain ⟨t, ht, rfl⟩ := Option.map_eq_some_iff.mp hs
    obtain ⟨hphase, ⟨htold, rfl⟩ | ⟨htold, hdue, rfl⟩⟩ := AlertTask.wake_cases ht
    · exact ⟨hclock, hphase, Or.inl ⟨htold, rfl⟩⟩
    · exact ⟨hclock, hphase, Or.inr ⟨htold, hdue, rfl⟩⟩
  · simp [hclock] at hs

theorem within_cases {e : Cycle.Event} (hs : r.step? s (.within e) = some s') :
    ∃ c state next, s.work = .busy c state ∧ c.step? state e = some next ∧
      s' = { s with work := .busy c next } := by
  unfold step? at hs
  cases hwork : s.work with
  | idle p => simp [hwork] at hs
  | busy c state =>
      simp only [hwork] at hs
      obtain ⟨next, hnext, rfl⟩ := Option.map_eq_some_iff.mp hs
      exact ⟨c, state, next, rfl, hnext, rfl⟩

theorem elsewhere_cases {e : Pool.Event} (hs : r.step? s (.elsewhere e) = some s') :
    ∃ p q, s.work = .idle p ∧ p.step? e = some q ∧ s' = { s with work := .idle q } := by
  unfold step? at hs
  cases hwork : s.work with
  | busy c state => simp [hwork] at hs
  | idle p =>
      simp only [hwork] at hs
      obtain ⟨q, hq, rfl⟩ := Option.map_eq_some_iff.mp hs
      exact ⟨p, q, rfl, hq, rfl⟩

theorem finish_cases {moment : Nat} (hs : r.step? s (.finish moment) = some s') :
    ∃ c state outcome since, s.work = .busy c state ∧ state.stage = .ended outcome ∧
      s.clock ≤ moment ∧ s.task.phase = .running since ∧
      s' = ⟨s.task.finish since moment outcome, .idle state.pool, moment⟩ := by
  unfold step? at hs
  cases houtcome : s.work.outcome? with
  | none => simp [houtcome] at hs
  | some outcome =>
      by_cases hclock : s.clock ≤ moment
      · simp only [houtcome, hclock, if_true] at hs
        obtain ⟨t, ht, rfl⟩ := Option.map_eq_some_iff.mp hs
        obtain ⟨since, hphase, -, rfl⟩ := AlertTask.finish_cases ht
        obtain ⟨c, state, hwork, hstage⟩ := Schedule.Work.outcome?_eq_some houtcome
        exact ⟨c, state, outcome, since, hwork, hstage, hclock, hphase, by rw [hwork]; rfl⟩
      · simp [houtcome, hclock] at hs

theorem steps?_cons (e : Event) (es : List Event) (s : State) :
    r.steps? s (e :: es) = (r.step? s e).bind fun s' => r.steps? s' es := by
  simp [steps?]

theorem steps?_append (es fs : List Event) (s : State) :
    r.steps? s (es ++ fs) = (r.steps? s es).bind fun s' => r.steps? s' fs := by
  simp [steps?]

end Routine

/-! ### Signs -/

namespace Schedule

/-- What can be seen of the cycles of a task. -/
inductive Sign where
  | start
  /-- The cycle on its way takes a step, or others do meanwhile. -/
  | step (e : Cycle.Event)
  | finish (outcome : CycleOutcome)

namespace Sign

def isStart : Sign → Bool
  | start => true
  | _ => false

def isFinish : Sign → Bool
  | finish _ => true
  | _ => false

end Sign

/-- The sign that a step gives which is possible. -/
def State.sign? (s : State) : Event → Option Sign
  | .shutdown => none
  | .wake .. => if s.task.shutdown then none else some .start
  | .within e => some (.step e)
  | .elsewhere _ => none
  | .finish _ => s.work.outcome?.map .finish

namespace State

variable {s : State} {moment now : Nat} {net : Network}

theorem sign?_of_told (h : s.task.shutdown = true) : s.sign? (.wake moment now net) = none := by
  simp [sign?, h]

theorem sign?_of_not_told (h : s.task.shutdown = false) :
    s.sign? (.wake moment now net) = some .start := by
  simp [sign?, h]

theorem sign?_of_ended {c : CycleTask} {state : Cycle.State} {outcome : CycleOutcome}
    (hwork : s.work = .busy c state) (hstage : state.stage = .ended outcome) :
    s.sign? (.finish moment) = some (.finish outcome) := by
  simp [sign?, hwork, Work.outcome?, hstage, Cycle.Stage.outcome?]

end State

/-- A cycle as far as it has come. -/
structure Flight where
  cycle : CycleTask
  /-- The pool when the cycle started. -/
  pool : Pool
  steps : List Cycle.Event

namespace Flight

/-- The state that the cycle has come to. -/
def state? (f : Flight) : Option Cycle.State :=
  f.cycle.steps? (Cycle.start f.pool) f.steps

/-- The signs of the cycle. -/
def signs (f : Flight) : List Sign :=
  .start :: f.steps.map .step

/-- The cycle is one of a task. -/
structure IsOf (i : Interpreter) (r : Routine) (f : Flight) : Prop where
  cycle : ∃ now net, f.cycle = r.cycle now net
  pool : Pool.Reachable i f.pool

/-- The cycle has come to its end. -/
def HasEnded (f : Flight) (outcome : CycleOutcome) : Prop :=
  ∃ last, f.state? = some last ∧ last.stage = .ended outcome

theorem countP_isStart (f : Flight) : f.signs.countP Sign.isStart = 1 := by
  have hsteps : (f.steps.map Sign.step).countP Sign.isStart = 0 := by
    rw [List.countP_eq_zero]
    intro sign hsign
    obtain ⟨e, -, rfl⟩ := List.mem_map.mp hsign
    simp [Sign.isStart]
  simp [signs, List.countP_cons, hsteps, Sign.isStart]

theorem countP_isFinish (f : Flight) : f.signs.countP Sign.isFinish = 0 := by
  have hsteps : (f.steps.map Sign.step).countP Sign.isFinish = 0 := by
    rw [List.countP_eq_zero]
    intro sign hsign
    obtain ⟨e, -, rfl⟩ := List.mem_map.mp hsign
    simp [Sign.isFinish]
  simp [signs, hsteps, Sign.isFinish]

end Flight

variable {i : Interpreter} {r : Routine} {s s' : State} {signs : List Sign}
  {ends : List CycleOutcome}

/-- The signs of cycles that came one behind the other, each of them to its end; how they ended,
the last one first. -/
inductive Whole (i : Interpreter) (r : Routine) : List Sign → List CycleOutcome → Prop where
  | nil : Whole i r [] []
  | next {signs : List Sign} {ends : List CycleOutcome} (before : Whole i r signs ends)
      (f : Flight) {outcome : CycleOutcome} (isOf : f.IsOf i r) (ended : f.HasEnded outcome) :
      Whole i r (signs ++ (f.signs ++ [.finish outcome])) (outcome :: ends)

/-- The signs of cycles that came one behind the other, and what the last of them is at. -/
inductive Signed (i : Interpreter) (r : Routine) :
    List Sign → List CycleOutcome → Work → Prop where
  | idle {signs : List Sign} {ends : List CycleOutcome} (whole : Whole i r signs ends)
      {pool : Pool} (reachable : Pool.Reachable i pool) : Signed i r signs ends (.idle pool)
  | busy {signs : List Sign} {ends : List CycleOutcome} (whole : Whole i r signs ends)
      (f : Flight) (isOf : f.IsOf i r) {state : Cycle.State} (come : f.state? = some state) :
      Signed i r (signs ++ f.signs) ends (.busy f.cycle state)

theorem Whole.countP_isStart (h : Whole i r signs ends) :
    signs.countP Sign.isStart = ends.length := by
  induction h with
  | nil => rfl
  | next before f isOf ended ih =>
      simp [List.countP_append, ih, f.countP_isStart, Sign.isStart]

theorem Whole.countP_isFinish (h : Whole i r signs ends) :
    signs.countP Sign.isFinish = ends.length := by
  induction h with
  | nil => rfl
  | next before f isOf ended ih =>
      simp [List.countP_append, ih, f.countP_isFinish, Sign.isFinish]

namespace Signed

variable {work : Work}

theorem countP_isStart (h : Signed i r signs ends work) :
    signs.countP Sign.isStart = ends.length + if work.isBusy then 1 else 0 := by
  cases h with
  | idle whole => simp [whole.countP_isStart, Work.isBusy]
  | busy whole f => simp [List.countP_append, whole.countP_isStart, f.countP_isStart, Work.isBusy]

theorem countP_isFinish (h : Signed i r signs ends work) :
    signs.countP Sign.isFinish = ends.length := by
  cases h with
  | idle whole => exact whole.countP_isFinish
  | busy whole f => simp [List.countP_append, whole.countP_isFinish, f.countP_isFinish]

/-- The cycle on its way is in a state that cycles can be in. -/
theorem sound {c : CycleTask} {state : Cycle.State}
    (h : Signed i r signs ends (.busy c state)) : Cycle.Sound i c state := by
  cases h with
  | busy whole f isOf come => exact Cycle.sound_of_steps? isOf.pool come

theorem reachable (h : Signed i r signs ends work) : Pool.Reachable i work.pool := by
  cases h with
  | idle whole reachable => exact reachable
  | busy whole f isOf come => exact (Cycle.sound_of_steps? isOf.pool come).pool

theorem start (h : Signed i r signs ends work) (hidle : work.isBusy = false) (now : Nat)
    (net : Network) : Signed i r (signs ++ [.start]) ends
      (.busy (r.cycle now net) (Cycle.start work.pool)) := by
  cases h with
  | busy => simp [Work.isBusy] at hidle
  | @idle signs ends whole pool reachable =>
      exact .busy whole ⟨r.cycle now net, pool, []⟩ ⟨⟨now, net, rfl⟩, reachable⟩ rfl

theorem elsewhere {p q : Pool} {e : Pool.Event} (h : Signed i r signs ends (.idle p))
    (hs : p.step? e = some q) : Signed i r signs ends (.idle q) := by
  cases h with
  | idle whole reachable => exact .idle whole (reachable.step hs)

theorem within {c : CycleTask} {state next : Cycle.State} {e : Cycle.Event}
    (h : Signed i r signs ends (.busy c state)) (hs : c.step? state e = some next) :
    Signed i r (signs ++ [.step e]) ends (.busy c next) := by
  cases h with
  | @busy signs ends whole f isOf state come =>
      have hcome : f.cycle.steps? (Cycle.start f.pool) (f.steps ++ [e]) = some next := by
        refine CycleTask.steps?_trans come ?_
        rw [CycleTask.steps?_cons, hs]
        rfl
      have hsigned := Signed.busy whole ⟨f.cycle, f.pool, f.steps ++ [e]⟩ ⟨isOf.cycle, isOf.pool⟩
        hcome
      simpa [Flight.signs, List.append_assoc] using hsigned

theorem finish {c : CycleTask} {state : Cycle.State} {outcome : CycleOutcome}
    (h : Signed i r signs ends (.busy c state)) (hstage : state.stage = .ended outcome) :
    Signed i r (signs ++ [.finish outcome]) (outcome :: ends) (.idle state.pool) := by
  have hreachable := h.reachable
  cases h with
  | @busy signs ends whole f isOf state come =>
      rw [List.append_assoc]
      exact .idle (whole.next f isOf ⟨state, come, hstage⟩) hreachable

end Signed

/-! ### A run -/

/-- What the cycles of a task have come to, the last one first. -/
def State.outcomes (s : State) : List CycleOutcome :=
  s.task.history.map (·.outcome)

/-- What is so of a task that has given signs. -/
structure Kept (i : Interpreter) (r : Routine) (signs : List Sign) (s : State) : Prop where
  orderly : s.task.Orderly s.clock
  signed : Signed i r signs s.outcomes s.work
  busy : s.task.isRunning = s.work.isBusy

theorem kept_begin {p : Pool} (hp : Pool.Reachable i p) (ticker : Ticker) :
    Kept i r [] (begin ticker p) where
  orderly := AlertTask.orderly_new ticker 0
  signed := .idle .nil hp
  busy := rfl

namespace Kept

theorem idle_of_waiting (h : Kept i r signs s) (hphase : s.task.phase = .waiting) :
    s.work.isBusy = false := by
  rw [← h.busy]
  simp [AlertTask.isRunning, hphase]

theorem running_of_busy (h : Kept i r signs s) (hbusy : s.work.isBusy = true) :
    ∃ since, s.task.phase = .running since := by
  have hrunning := h.busy.trans hbusy
  cases hphase : s.task.phase with
  | running since => exact ⟨since, rfl⟩
  | waiting => simp [AlertTask.isRunning, hphase] at hrunning
  | stopped moment => simp [AlertTask.isRunning, hphase] at hrunning

theorem step (h : Kept i r signs s) {e : Event} (hs : r.step? s e = some s') :
    Kept i r (signs ++ (s.sign? e).toList) s' := by
  have hsigned := h.signed
  have hbusy := h.busy
  cases e with
  | shutdown =>
      cases hs
      rw [State.sign?, Option.toList_none, List.append_nil]
      exact ⟨h.orderly.cancel, hsigned, hbusy⟩
  | wake moment now net =>
      obtain ⟨hclock, hphase, ⟨htold, rfl⟩ | ⟨htold, -, rfl⟩⟩ := Routine.wake_cases hs
      · rw [State.sign?_of_told htold, Option.toList_none, List.append_nil]
        rw [Work.eq_idle (h.idle_of_waiting hphase)] at hsigned
        exact ⟨h.orderly.stop hphase htold hclock, hsigned, rfl⟩
      · rw [State.sign?_of_not_told htold]
        exact ⟨h.orderly.start hphase hclock,
          hsigned.start (h.idle_of_waiting hphase) now net, rfl⟩
  | within e =>
      obtain ⟨c, state, next, hwork, hnext, rfl⟩ := Routine.within_cases hs
      rw [hwork] at hsigned hbusy
      exact ⟨h.orderly, hsigned.within hnext, hbusy⟩
  | elsewhere e =>
      obtain ⟨p, q, hwork, hq, rfl⟩ := Routine.elsewhere_cases hs
      rw [hwork] at hsigned hbusy
      rw [State.sign?, Option.toList_none, List.append_nil]
      exact ⟨h.orderly, hsigned.elsewhere hq, hbusy⟩
  | finish moment =>
      obtain ⟨c, state, outcome, since, hwork, hstage, hclock, hphase, rfl⟩ :=
        Routine.finish_cases hs
      rw [State.sign?_of_ended hwork hstage]
      rw [hwork] at hsigned
      exact ⟨h.orderly.finish hphase hclock outcome, hsigned.finish hstage, rfl⟩

end Kept

/-- The signs of a sequence of steps. -/
def signsOf (r : Routine) (s : State) : List Event → List Sign
  | [] => []
  | e :: es =>
    match r.step? s e with
    | some s' => (s.sign? e).toList ++ signsOf r s' es
    | none => []

theorem signsOf_cons {e : Event} (hs : r.step? s e = some s') (es : List Event) :
    signsOf r s (e :: es) = (s.sign? e).toList ++ signsOf r s' es := by
  simp [signsOf, hs]

/-- What is kept by every step is kept by a whole run. -/
theorem Kept.steps : ∀ (es : List Event) {signs : List Sign} {s s' : State},
    Kept i r signs s → r.steps? s es = some s' → Kept i r (signs ++ signsOf r s es) s' := by
  intro es
  induction es with
  | nil =>
      intro signs s s' h hs
      cases hs
      simpa [signsOf] using h
  | cons e rest ih =>
      intro signs s s' h hs
      rw [Routine.steps?_cons] at hs
      obtain ⟨mid, hmid, hrest⟩ := Option.bind_eq_some_iff.mp hs
      rw [signsOf_cons hmid, ← List.append_assoc]
      exact ih (h.step hmid) hrest

end Schedule

end Lookout
