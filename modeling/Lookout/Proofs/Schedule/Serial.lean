/-
The cycles of one task are serial, and a shutdown ends them in order.

The signs say that no two cycles are on their way at one time; what remains is the shutdown.  It
is looked for only by a task that waits, and before the tick, so behind it there is no start.  All
that a task can do while it does not look is the same with the shutdown and without it, and so a
cycle that is on its way then goes on as it would have gone on, up to its end, and the task stops
at its next look.  Without a shutdown nothing keeps a waiting task from the next tick, whatever its
cycles have come to.
-/
import Lookout.Proofs.Schedule.Signs

namespace Lookout

open Script (Interpreter)
open Lookout.Schedule (Work State Event Sign Kept Signed signsOf signsOf_cons kept_begin)

variable {i : Interpreter} {r : Routine} {s s' : State} {signs : List Sign}

/-- A look for the shutdown and for a tick. -/
def Schedule.Event.isLook : Event → Bool
  | wake .. => true
  | _ => false

namespace Routine

/-! ### The shutdown -/

theorem shutdown_of_step {e : Event} (hs : r.step? s e = some s') :
    s'.task.shutdown = true ↔ s.task.shutdown = true ∨ e = .shutdown := by
  cases e with
  | shutdown =>
      cases hs
      simp [AlertTask.cancel]
  | wake moment now net =>
      obtain ⟨-, -, ⟨-, rfl⟩ | ⟨-, -, rfl⟩⟩ := wake_cases hs
      · simp [AlertTask.stop]
      · simp [AlertTask.start]
  | within e =>
      obtain ⟨c, state, next, -, -, rfl⟩ := within_cases hs
      simp
  | elsewhere e =>
      obtain ⟨p, q, -, -, rfl⟩ := elsewhere_cases hs
      simp
  | finish moment =>
      obtain ⟨c, state, outcome, since, -, -, -, -, rfl⟩ := finish_cases hs
      simp [AlertTask.finish]

theorem shutdown_iff : ∀ (es : List Event) {s s' : State}, r.steps? s es = some s' →
    (s'.task.shutdown = true ↔ s.task.shutdown = true ∨ .shutdown ∈ es) := by
  intro es
  induction es with
  | nil =>
      intro s s' hs
      cases hs
      simp
  | cons e rest ih =>
      intro s s' hs
      rw [steps?_cons] at hs
      obtain ⟨mid, hmid, hrest⟩ := Option.bind_eq_some_iff.mp hs
      rw [ih hrest, shutdown_of_step hmid, List.mem_cons, or_assoc, eq_comm (a := e)]

/-- A task that has been told to stop starts no cycle. -/
theorem quiet_of_step (htold : s.task.shutdown = true) {e : Event} (hs : r.step? s e = some s') :
    s'.task.started = s.task.started ∧ s.sign? e ≠ some .start := by
  cases e with
  | shutdown =>
      cases hs
      exact ⟨rfl, by simp [State.sign?]⟩
  | wake moment now net =>
      obtain ⟨-, -, ⟨-, rfl⟩ | ⟨hnot, -⟩⟩ := wake_cases hs
      · exact ⟨rfl, by simp [State.sign?, htold]⟩
      · simp [htold] at hnot
  | within e =>
      obtain ⟨c, state, next, -, -, rfl⟩ := within_cases hs
      exact ⟨rfl, by simp [State.sign?]⟩
  | elsewhere e =>
      obtain ⟨p, q, -, -, rfl⟩ := elsewhere_cases hs
      exact ⟨rfl, by simp [State.sign?]⟩
  | finish moment =>
      obtain ⟨c, state, outcome, since, -, -, -, -, rfl⟩ := finish_cases hs
      exact ⟨rfl, by simp [State.sign?]⟩

theorem quiet_of_steps : ∀ (es : List Event) {s s' : State}, s.task.shutdown = true →
    r.steps? s es = some s' →
    s'.task.started = s.task.started ∧ .start ∉ signsOf r s es := by
  intro es
  induction es with
  | nil =>
      intro s s' _ hs
      cases hs
      simp [signsOf]
  | cons e rest ih =>
      intro s s' htold hs
      rw [steps?_cons] at hs
      obtain ⟨mid, hmid, hrest⟩ := Option.bind_eq_some_iff.mp hs
      obtain ⟨hstarted, hsign⟩ := quiet_of_step htold hmid
      obtain ⟨hstarted', hsigns⟩ := ih ((shutdown_of_step hmid).mpr (Or.inl htold)) hrest
      refine ⟨hstarted'.trans hstarted, ?_⟩
      rw [signsOf_cons hmid, List.mem_append, Option.mem_toList]
      exact fun h => h.elim hsign hsigns

/-- Only a look sees the shutdown. -/
theorem step?_told {e : Event} (hlook : e.isLook = false) (s : State) :
    r.step? s.told e = (r.step? s e).map State.told := by
  cases e with
  | shutdown => rfl
  | wake moment now net => simp [Event.isLook] at hlook
  | within e =>
      cases hwork : s.work with
      | idle p => simp [step?, State.told, hwork]
      | busy c state =>
          cases hnext : c.step? state e <;> simp [step?, State.told, hwork, hnext]
  | elsewhere e =>
      cases hwork : s.work with
      | busy c state => simp [step?, State.told, hwork]
      | idle p => cases hnext : p.step? e <;> simp [step?, State.told, hwork, hnext]
  | finish moment =>
      cases houtcome : s.work.outcome? with
      | none => simp [step?, State.told, houtcome]
      | some outcome =>
          have hfinish := s.task.step?_finish_cancel moment outcome
          by_cases hclock : s.clock ≤ moment
          · simp [step?, State.told, houtcome, hclock, hfinish, Function.comp_def]
          · simp [step?, State.told, houtcome, hclock]

theorem steps?_told : ∀ (es : List Event) (s : State), (∀ e ∈ es, e.isLook = false) →
    r.steps? s.told es = (r.steps? s es).map State.told := by
  intro es
  induction es with
  | nil =>
      intro s _
      rfl
  | cons e rest ih =>
      intro s hlook
      have hfirst : e.isLook = false := hlook e List.mem_cons_self
      rw [steps?_cons, steps?_cons, step?_told hfirst]
      cases hnext : r.step? s e with
      | none => rfl
      | some next => exact ih next fun e he => hlook e (List.mem_cons_of_mem _ he)

/-! ### What is possible -/

theorem step?_stop (hphase : s.task.phase = .waiting) (htold : s.task.shutdown = true)
    {moment : Nat} (hclock : s.clock ≤ moment) (now : Nat) (net : Network) :
    r.step? s (.wake moment now net)
      = some ⟨s.task.stop moment, .idle s.work.pool, moment⟩ := by
  simp [step?, hclock, AlertTask.step?_stop hphase htold, behind, AlertTask.stop]

theorem step?_start (hphase : s.task.phase = .waiting) (htold : s.task.shutdown = false)
    {moment : Nat} (hclock : s.clock ≤ moment) (hdue : s.task.ticker.due ≤ moment) (now : Nat)
    (net : Network) : r.step? s (.wake moment now net)
      = some ⟨s.task.start moment, .busy (r.cycle now net) (Cycle.start s.work.pool), moment⟩ := by
  simp [step?, hclock, AlertTask.step?_start hphase htold hdue, behind, AlertTask.start]

theorem steps?_within {c : CycleTask} : ∀ (es : List Cycle.Event) {s : State}
    {state last : Cycle.State}, s.work = .busy c state → c.steps? state es = some last →
    r.steps? s (es.map .within) = some { s with work := .busy c last } := by
  intro es
  induction es with
  | nil =>
      intro s state last hwork hlast
      cases hlast
      rw [← hwork]
      rfl
  | cons e rest ih =>
      intro s state last hwork hlast
      rw [CycleTask.steps?_cons] at hlast
      obtain ⟨next, hnext, hrest⟩ := Option.bind_eq_some_iff.mp hlast
      have hstep : r.step? s (.within e) = some { s with work := .busy c next } := by
        simp [step?, hwork, hnext]
      rw [List.map_cons, steps?_cons, hstep, Option.bind_some]
      exact ih rfl hrest

end Routine

namespace Schedule.Kept

/-- As long as a cycle is on its way, its task does not look. -/
theorem wake_of_busy (h : Kept i r signs s) (hbusy : s.work.isBusy = true) (moment now : Nat)
    (net : Network) : r.step? s (.wake moment now net) = none := by
  obtain ⟨since, hphase⟩ := h.running_of_busy hbusy
  rw [Option.eq_none_iff_forall_ne_some]
  intro s' hs
  have hwaiting := (Routine.wake_cases hs).2.1
  rw [hphase] at hwaiting
  cases hwaiting

/-- A cycle that has ended sends its task back to wait, however it has ended. -/
theorem finish_ok (h : Kept i r signs s) {c : CycleTask} {state : Cycle.State}
    {outcome : CycleOutcome} (hwork : s.work = .busy c state)
    (hstage : state.stage = .ended outcome) {moment : Nat} (hclock : s.clock ≤ moment) :
    ∃ s', r.step? s (.finish moment) = some s' ∧ s'.task.phase = .waiting ∧
      s'.task.shutdown = s.task.shutdown ∧ s'.work = .idle state.pool ∧ s'.clock = moment := by
  obtain ⟨since, hphase⟩ := h.running_of_busy (by rw [hwork]; rfl)
  have hsince := (h.orderly.running since hphase).1
  refine ⟨⟨s.task.finish since moment outcome, .idle state.pool, moment⟩, ?_, rfl, rfl, rfl, rfl⟩
  have houtcome : s.work.outcome? = some outcome := by
    simp [hwork, Work.outcome?, hstage, Cycle.Stage.outcome?]
  have hpool : s.work.pool = state.pool := by
    rw [hwork]
    rfl
  have hfinish := AlertTask.step?_finish hphase (Nat.le_trans hsince hclock) outcome
  simp [Routine.step?, houtcome, hclock, hfinish, hpool]

/-- A task that has been told to stop can stop: a cycle on its way can come to its end, and the
next look is the last. -/
theorem canStop (h : Kept i r signs s) (htold : s.task.shutdown = true) :
    ∃ more s' moment, r.steps? s more = some s' ∧ s'.task.phase = .stopped moment := by
  cases hphase : s.task.phase with
  | stopped moment => exact ⟨[], s, moment, rfl, hphase⟩
  | waiting =>
      have hstop := Routine.step?_stop (r := r) hphase htold (Nat.le_refl _) 0 .unreachable
      refine ⟨[.wake s.clock 0 .unreachable],
        ⟨s.task.stop s.clock, .idle s.work.pool, s.clock⟩, s.clock, ?_, rfl⟩
      rw [Routine.steps?_cons, hstop]
      rfl
  | running since =>
      have hbusy : s.work.isBusy = true := by
        rw [← h.busy]
        simp [AlertTask.isRunning, hphase]
      cases hwork : s.work with
      | idle p => simp [hwork, Work.isBusy] at hbusy
      | busy c state =>
          have hsigned := h.signed
          rw [hwork] at hsigned
          obtain ⟨own, last, outcome, -, hlast, hended⟩ := hsigned.sound.canEnd
          have hown := Routine.steps?_within (r := r) own hwork hlast
          have hkept := h.steps (own.map .within) hown
          obtain ⟨next, hnext, hwaiting, hkeeps, -, hclock⟩ :=
            hkept.finish_ok rfl hended (Nat.le_refl s.clock)
          have hstop := Routine.step?_stop (r := r) hwaiting (hkeeps.trans htold)
            (Nat.le_of_eq hclock) 0 .unreachable
          refine ⟨own.map .within ++ [.finish s.clock, .wake s.clock 0 .unreachable],
            ⟨next.task.stop s.clock, .idle next.work.pool, s.clock⟩, s.clock, ?_, rfl⟩
          rw [Routine.steps?_append, hown, Option.bind_some, Routine.steps?_cons, hnext,
            Option.bind_some, Routine.steps?_cons, hstop]
          rfl

end Schedule.Kept

/-! ### The whole task -/

/-- What is so of a task after events. -/
structure Schedule.Serial (i : Interpreter) (r : Routine) (first : State) (es : List Event)
    (s : State) : Prop where
  /-- The numbers of the cycles, and their moments. -/
  orderly : s.task.Orderly s.clock
  /-- All signs are those of whole cycles, one behind the other, and then of the one that is on
  its way. -/
  signed : Signed i r (signsOf r first es) s.outcomes s.work
  started : s.task.started = (signsOf r first es).countP Sign.isStart
  cycles : s.task.cycles = (signsOf r first es).countP Sign.isFinish
  /-- A task stops only if it is told to, and answers how many cycles it has started, all of
  which have ended. -/
  answer : ∀ moment, s.task.phase = .stopped moment →
    .shutdown ∈ es ∧ s.work.isBusy = false ∧ s.task.cycles = s.task.started
  /-- No cycle starts behind a shutdown. -/
  quiet : .shutdown ∈ es → ∀ more s', r.steps? s more = some s' →
    s'.task.started = s.task.started ∧ .start ∉ signsOf r s more
  /-- The first look behind a shutdown stops the task, whether a tick is due or not. -/
  stops : .shutdown ∈ es → s.task.phase = .waiting → ∀ moment now net, s.clock ≤ moment →
    ∃ s', r.step? s (.wake moment now net) = some s' ∧ s'.task.phase = .stopped moment
  /-- A cycle on its way keeps its task from looking. -/
  held : s.work.isBusy = true → ∀ moment now net, r.step? s (.wake moment now net) = none
  /-- Up to the next look all goes on as without the shutdown. -/
  unmoved : ∀ more, (∀ e ∈ more, e.isLook = false) →
    r.steps? s.told more = (r.steps? s more).map State.told
  /-- A cycle that is on its way when the shutdown comes can come to its end, and then the task
  can stop. -/
  canStop : .shutdown ∈ es → ∃ more s' moment, r.steps? s more = some s' ∧
    s'.task.phase = .stopped moment ∧ s'.task.cycles = s.task.started
  /-- However a cycle has ended, its task waits again. -/
  returns : ∀ c state outcome, s.work = .busy c state → state.stage = .ended outcome →
    ∀ moment, s.clock ≤ moment → ∃ s', r.step? s (.finish moment) = some s' ∧
      s'.task.phase = .waiting ∧ s'.task.shutdown = s.task.shutdown
  /-- However its cycles have ended, a task that waits starts another one with the next tick, as
  long as there is no shutdown. -/
  goesOn : .shutdown ∉ es → s.task.phase = .waiting → ∀ moment now net, s.clock ≤ moment →
    s.task.ticker.due ≤ moment → ∃ s', r.step? s (.wake moment now net) = some s' ∧
      s'.work = .busy (r.cycle now net) (Cycle.start s.work.pool)

theorem Schedule.serial_of_steps? {p : Pool} (hp : Pool.Reachable i p) {ticker : Ticker}
    {es : List Event} (hs : r.steps? (Schedule.begin ticker p) es = some s) :
    Schedule.Serial i r (Schedule.begin ticker p) es s := by
  have h : Kept i r (signsOf r (Schedule.begin ticker p) es) s :=
    (kept_begin hp ticker).steps es hs
  have htold : s.task.shutdown = true ↔ .shutdown ∈ es := by
    rw [Routine.shutdown_iff es hs]
    simp [Schedule.begin, AlertTask.new]
  have hlength : s.outcomes.length = s.task.cycles := by
    rw [h.orderly.cycles]
    simp [State.outcomes]
  exact {
    orderly := h.orderly
    signed := h.signed
    started := by rw [h.signed.countP_isStart, hlength, h.orderly.started, h.busy]
    cycles := by rw [h.signed.countP_isFinish, hlength]
    answer := by
      intro moment hphase
      refine ⟨htold.mp (h.orderly.stopped moment hphase).1, ?_, h.orderly.answer hphase⟩
      rw [← h.busy]
      simp [AlertTask.isRunning, hphase]
    quiet := fun hmem more s' hmore => Routine.quiet_of_steps more (htold.mpr hmem) hmore
    stops := fun hmem hphase moment now net hclock =>
      ⟨_, Routine.step?_stop hphase (htold.mpr hmem) hclock now net, rfl⟩
    held := h.wake_of_busy
    unmoved := fun more hlook => Routine.steps?_told more s hlook
    canStop := by
      intro hmem
      obtain ⟨more, s', moment, hmore, hphase⟩ := h.canStop (htold.mpr hmem)
      refine ⟨more, s', moment, hmore, hphase, ?_⟩
      rw [(h.steps more hmore).orderly.answer hphase]
      exact (Routine.quiet_of_steps more (htold.mpr hmem) hmore).1
    returns := by
      intro c state outcome hwork hstage moment hclock
      obtain ⟨s', hs', hphase, hkeeps, -⟩ := h.finish_ok hwork hstage hclock
      exact ⟨s', hs', hphase, hkeeps⟩
    goesOn := by
      intro hmem hphase moment now net hclock hdue
      have hnot : s.task.shutdown = false := Bool.eq_false_iff.mpr (mt htold.mp hmem)
      exact ⟨_, Routine.step?_start hphase hnot hclock hdue now net, rfl⟩ }

/-- **The cycles of a task come one behind the other, and a shutdown ends them in order.**  This
is so for every sequence of ticks, of steps of the cycles and of others, and for a shutdown at any
place in it; and a task that is left to itself with cycles that take given times and come to
given outcomes goes through one such sequence, to its end. -/
theorem task_serial (i : Interpreter) (ticker : Ticker) :
    (∀ (size : Nat) (past : List Pool.Event) (p : Pool) (r : Routine) (es : List Event)
        (s : State), (Pool.new size i).steps? past = some p →
      r.steps? (Schedule.begin ticker p) es = some s →
      Schedule.Serial i r (Schedule.begin ticker p) es s) ∧
    (∀ (cycle : Nat → AlertTask.CycleLength) (shutdown now : Nat),
      let t := (AlertTask.new ticker).run cycle shutdown now
      t.Punctual cycle shutdown now ∧
      (∃ es, (AlertTask.new ticker).steps? es = some t) ∧
      ∀ cycle' : Nat → AlertTask.CycleLength, (∀ n, (cycle n).took = (cycle' n).took) →
        t.unjudged = ((AlertTask.new ticker).run cycle' shutdown now).unjudged) := by
  constructor
  · intro size past p r es s hp hs
    exact Schedule.serial_of_steps? ⟨size, past, hp⟩ hs
  · intro cycle shutdown now
    refine ⟨AlertTask.run_punctual (AlertTask.orderly_new ticker now) rfl
      (AlertTask.listed_new ticker), AlertTask.exists_steps_run rfl rfl, ?_⟩
    intro cycle' htook
    exact AlertTask.run_unjudged htook _ rfl

/-- The task of an alert whose condition always holds. -/
def chime : Routine where
  alert := ⟨"chime", 60, ⟨"logs", .null⟩, "True", [.log "ding"]⟩
  dispatcher := .new none ⟨10⟩
  timeout := ⟨20⟩

/-- The first cycle of a task fails.  The shutdown comes in the second one, which is longer than
the interval and rings its bell all the same. -/
def ringing : List Event :=
  [.wake 0 0 .unreachable, .within .deadline, .finish 20, .wake 20 0 .unreachable, .shutdown] ++
    [.answer (.ok .null), .takePermit, .popSlot, .send, .elsewhere (.start 0),
      .elsewhere (.finish 0 none), .receive, .beginAction 0, .endAction 0, .report].map .within ++
    [.finish 40, .wake 40 0 .unreachable]

/-- A task that stops with the next tick due, after one cycle that failed and one that matched;
and one that stops at the same moment whether all of its cycles fail or none of them. -/
theorem task_serial_ringing : (∃ s,
      chime.steps? (Schedule.begin ⟨5, by decide, 0⟩ (Pool.new 1 Interpreter.bare)) ringing
        = some s ∧
      s.task.phase = .stopped 40 ∧ s.task.ticker.due ≤ 40 ∧ s.task.started = 2 ∧
      s.task.cycles = s.task.started ∧
      s.task.history.Pairwise fun later earlier => earlier.finish ≤ later.start) ∧
    ((AlertTask.new ⟨5, by decide, 0⟩).run (fun _ => ⟨⟨7⟩, .noMatch⟩) 12 0).unjudged
      = ((AlertTask.new ⟨5, by decide, 0⟩).run (fun _ => ⟨⟨7⟩, .failed (.timeout ⟨7⟩)⟩) 12
          0).unjudged := by
  constructor
  · have hruns : (chime.steps? (Schedule.begin ⟨5, by decide, 0⟩ (Pool.new 1 Interpreter.bare))
        ringing).map (fun s => (s.task.phase, decide (s.task.ticker.due ≤ 40), s.task.started))
          = some (.stopped 40, true, 2) := by decide +kernel
    obtain ⟨s, hs, hend⟩ := Option.map_eq_some_iff.mp hruns
    simp only [Prod.mk.injEq, decide_eq_true_eq] at hend
    obtain ⟨hphase, hdue, hstarted⟩ := hend
    have hserial := (task_serial Interpreter.bare ⟨5, by decide, 0⟩).1 1 [] _ chime ringing s rfl hs
    exact ⟨s, hs, hphase, hdue, hstarted, (hserial.answer 40 hphase).2.2, hserial.orderly.serial⟩
  · exact ((task_serial Interpreter.bare ⟨5, by decide, 0⟩).2 _ 12 0).2.2 _ fun _ => rfl

end Lookout
