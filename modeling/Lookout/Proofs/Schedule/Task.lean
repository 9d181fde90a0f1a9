/-
The task of an alert at every moment, and what becomes of one that is left to itself.

Two things are counted about a task, the cycles it has started and the ones it has run to their
end, and they are counted in different places.  `Orderly` says how they depend on each other and on
what the task is doing, and how the cycles lie in time; each move of a task keeps it, whoever makes
the moves.  A task that is left to itself makes such moves only, which is why it ends in order:
`run_punctual`.

How a cycle ended is written down and never looked at, so nothing but that differs between two
tasks whose cycles take equally long.
-/
import Lookout.Schedule.Task

namespace Lookout

namespace AlertTask

variable {t t' : AlertTask} {clock : Nat}

/-! ### What a step can do -/

theorem wake_cases {now : Nat} (h : t.step? (.wake now) = some t') : t.phase = .waiting ∧
    ((t.shutdown = true ∧ t' = t.stop now) ∨
      (t.shutdown = false ∧ t.ticker.due ≤ now ∧ t' = t.start now)) := by
  unfold step? at h
  by_cases hphase : t.phase = .waiting
  · refine ⟨hphase, ?_⟩
    simp only [hphase] at h
    by_cases hshutdown : t.shutdown = true
    · simp only [hshutdown, if_true, Option.some.injEq] at h
      exact Or.inl ⟨hshutdown, h.symm⟩
    · simp only [hshutdown, Bool.false_eq_true, if_false] at h
      by_cases hdue : t.ticker.due ≤ now
      · simp only [hdue, if_true, Option.some.injEq] at h
        exact Or.inr ⟨by simpa using hshutdown, hdue, h.symm⟩
      · simp [hdue] at h
  · cases hp : t.phase with
    | waiting => exact absurd hp hphase
    | running since => simp [hp] at h
    | stopped moment => simp [hp] at h

theorem finish_cases {now : Nat} {outcome : CycleOutcome}
    (h : t.step? (.finish now outcome) = some t') :
    ∃ since, t.phase = .running since ∧ since ≤ now ∧ t' = t.finish since now outcome := by
  unfold step? at h
  cases hp : t.phase with
  | waiting => simp [hp] at h
  | stopped moment => simp [hp] at h
  | running since =>
      simp only [hp] at h
      by_cases hle : since ≤ now
      · simp only [hle, if_true, Option.some.injEq] at h
        exact ⟨since, rfl, hle, h.symm⟩
      · simp [hle] at h

theorem step?_shutdown (t : AlertTask) : t.step? .shutdown = some t.cancel := rfl

theorem step?_stop (hphase : t.phase = .waiting) (htold : t.shutdown = true) (now : Nat) :
    t.step? (.wake now) = some (t.stop now) := by
  simp [step?, hphase, htold]

theorem step?_start (hphase : t.phase = .waiting) (htold : t.shutdown = false) {now : Nat}
    (hdue : t.ticker.due ≤ now) : t.step? (.wake now) = some (t.start now) := by
  simp [step?, hphase, htold, hdue]

theorem step?_finish {since now : Nat} (hphase : t.phase = .running since) (hle : since ≤ now)
    (outcome : CycleOutcome) :
    t.step? (.finish now outcome) = some (t.finish since now outcome) := by
  simp [step?, hphase, hle]

/-- The end of a cycle is the same for a task that has been told to stop. -/
theorem step?_finish_cancel (t : AlertTask) (now : Nat) (outcome : CycleOutcome) :
    t.cancel.step? (.finish now outcome) = (t.step? (.finish now outcome)).map cancel := by
  cases hphase : t.phase with
  | waiting => simp [step?, cancel, hphase]
  | stopped moment => simp [step?, cancel, hphase]
  | running since =>
      by_cases hle : since ≤ now
      · simp [step?, cancel, finish, hphase, hle]
      · simp [step?, cancel, hphase, hle]

/-! ### Order -/

/-- The task has a cycle on its way. -/
def isRunning (t : AlertTask) : Bool :=
  match t.phase with
  | .running _ => true
  | _ => false

/-- What is so of a task at a moment. -/
structure Orderly (clock : Nat) (t : AlertTask) : Prop where
  started : t.started = t.cycles + if t.isRunning then 1 else 0
  cycles : t.cycles = t.history.length
  stopped : ∀ moment, t.phase = .stopped moment → t.shutdown = true ∧ moment ≤ clock
  running : ∀ since, t.phase = .running since →
    since ≤ clock ∧ ∀ c ∈ t.history, c.finish ≤ since
  past : ∀ c ∈ t.history, c.start ≤ c.finish ∧ c.finish ≤ clock
  /-- Each cycle starts when the ones before it have ended. -/
  serial : t.history.Pairwise fun later earlier => earlier.finish ≤ later.start

theorem orderly_new (ticker : Ticker) (clock : Nat) : (new ticker).Orderly clock where
  started := rfl
  cycles := rfl
  stopped := by
    intro moment h
    cases h
  running := by
    intro since h
    cases h
  past := by
    intro c h
    cases h
  serial := List.Pairwise.nil

namespace Orderly

/-- A task that has stopped answers how many cycles it has started. -/
theorem answer (h : t.Orderly clock) {moment : Nat} (hphase : t.phase = .stopped moment) :
    t.cycles = t.started := by
  simp [h.started, isRunning, hphase]

theorem cancel (h : t.Orderly clock) : t.cancel.Orderly clock where
  started := h.started
  cycles := h.cycles
  stopped := by
    intro moment hphase
    exact ⟨rfl, (h.stopped moment hphase).2⟩
  running := h.running
  past := h.past
  serial := h.serial

theorem stop (h : t.Orderly clock) (hphase : t.phase = .waiting) (htold : t.shutdown = true)
    {now : Nat} (hnow : clock ≤ now) : (t.stop now).Orderly now where
  started := by simp [AlertTask.stop, isRunning, h.started, hphase]
  cycles := h.cycles
  stopped := by
    intro moment hmoment
    cases hmoment
    exact ⟨htold, Nat.le_refl _⟩
  running := by
    intro since hsince
    cases hsince
  past := by
    intro c hc
    exact ⟨(h.past c hc).1, Nat.le_trans (h.past c hc).2 hnow⟩
  serial := h.serial

theorem start (h : t.Orderly clock) (hphase : t.phase = .waiting) {now : Nat}
    (hnow : clock ≤ now) : (t.start now).Orderly now where
  started := by simp [AlertTask.start, isRunning, h.started, hphase]
  cycles := h.cycles
  stopped := by
    intro moment hmoment
    cases hmoment
  running := by
    intro since hsince
    cases hsince
    exact ⟨Nat.le_refl _, fun c hc => Nat.le_trans (h.past c hc).2 hnow⟩
  past := by
    intro c hc
    exact ⟨(h.past c hc).1, Nat.le_trans (h.past c hc).2 hnow⟩
  serial := h.serial

theorem finish (h : t.Orderly clock) {since : Nat} (hphase : t.phase = .running since) {now : Nat}
    (hnow : clock ≤ now) (outcome : CycleOutcome) : (t.finish since now outcome).Orderly now where
  started := by simp [AlertTask.finish, isRunning, h.started, hphase]
  cycles := by simp [AlertTask.finish, h.cycles]
  stopped := by
    intro moment hmoment
    cases hmoment
  running := by
    intro since hsince
    cases hsince
  past := by
    intro c hc
    rcases List.mem_cons.mp hc with rfl | hc
    · exact ⟨Nat.le_trans (h.running since hphase).1 hnow, Nat.le_refl _⟩
    · exact ⟨(h.past c hc).1, Nat.le_trans (h.past c hc).2 hnow⟩
  serial := List.pairwise_cons.mpr ⟨(h.running since hphase).2, h.serial⟩

end Orderly

/-! ### A task that is left to itself -/

variable {cycle : Nat → CycleLength} {shutdown now : Nat}

/-- The cycles of a task are the given ones, and all of them started before the shutdown. -/
def Listed (cycle : Nat → CycleLength) (shutdown : Nat) (t : AlertTask) : Prop :=
  ∀ n c, t.history.reverse[n]? = some c →
    c.start < shutdown ∧ c.finish = c.start + (cycle n).took.nanoseconds ∧
      c.outcome = (cycle n).outcome

/-- The cycle that a waiting task runs next, from its tick to its end. -/
def lap (cycle : Nat → CycleLength) (now : Nat) (t : AlertTask) : AlertTask :=
  (t.start (t.ticker.next now)).finish (t.ticker.next now)
    (t.ticker.next now + (cycle t.started).took.nanoseconds) (cycle t.started).outcome

theorem run_of_shutdown (h : shutdown ≤ t.ticker.next now) :
    t.run cycle shutdown now = t.cancel.stop (max now shutdown) := by
  rw [run]
  exact if_pos h

theorem run_of_tick (h : t.ticker.next now < shutdown) : t.run cycle shutdown now
    = (t.lap cycle now).run cycle shutdown
        (t.ticker.next now + (cycle t.started).took.nanoseconds) := by
  rw [run]
  exact if_neg (Nat.not_le.mpr h)

theorem listed_new (ticker : Ticker) : (new ticker).Listed cycle shutdown := by
  intro n c hc
  simp [new] at hc

theorem orderly_lap (h : t.Orderly now) (hphase : t.phase = .waiting) :
    (t.lap cycle now).Orderly (t.ticker.next now + (cycle t.started).took.nanoseconds) :=
  (h.start hphase (Nat.le_max_left ..)).finish rfl (Nat.le_add_right ..) _

theorem listed_lap (h : t.Orderly now) (hphase : t.phase = .waiting)
    (hlisted : t.Listed cycle shutdown) (htick : t.ticker.next now < shutdown) :
    (t.lap cycle now).Listed cycle shutdown := by
  have hlength : t.history.length = t.started := by
    rw [h.started, h.cycles]
    simp [isRunning, hphase]
  intro n c hc
  simp only [lap, finish, start, List.reverse_cons] at hc
  by_cases hn : n < t.history.reverse.length
  · rw [List.getElem?_append_left hn] at hc
    exact hlisted n c hc
  · -- The cycle that the task has just run comes behind those that it had run before.
    have hlast : n = t.started := by
      have hbound := (List.getElem?_eq_some_iff.mp hc).1
      simp only [List.length_append, List.length_reverse, List.length_singleton] at hbound hn
      omega
    subst hlast
    rw [List.getElem?_append_right (Nat.le_of_not_lt hn)] at hc
    simp only [List.length_reverse, hlength, Nat.sub_self, List.getElem?_cons_zero,
      Option.some.injEq] at hc
    subst hc
    exact ⟨htick, rfl, rfl⟩

/-- A task that has stopped after it was left to itself from a moment on. -/
structure Punctual (cycle : Nat → CycleLength) (shutdown now : Nat) (t : AlertTask) :
    Prop where
  stopped : ∃ moment, t.phase = .stopped moment ∧ shutdown ≤ moment ∧ t.Orderly moment
  listed : t.Listed cycle shutdown
  /-- A tick that was due before the shutdown is left only where a cycle kept the task until the
  shutdown had come. -/
  eager : t.ticker.due < shutdown →
    shutdown ≤ now ∨ ∃ c, t.history.head? = some c ∧ shutdown ≤ c.finish

/-- **A task that is left to itself runs its cycles in order and then stops**, whatever its cycles
are and whenever the shutdown comes. -/
theorem run_punctual (h : t.Orderly now) (hphase : t.phase = .waiting)
    (hlisted : t.Listed cycle shutdown) :
    (t.run cycle shutdown now).Punctual cycle shutdown now := by
  fun_induction run cycle shutdown now t with
  | case1 now t tick hshutdown =>
      refine ⟨⟨max now shutdown, rfl, Nat.le_max_right .., ?_⟩, hlisted, ?_⟩
      · exact h.cancel.stop hphase rfl (Nat.le_max_left ..)
      · intro hdue
        have hnext : shutdown ≤ max now t.ticker.due := hshutdown
        have hkept : t.ticker.due < shutdown := hdue
        omega
  | case2 now t tick htick c ended ih =>
      have hbefore : t.ticker.next now < shutdown := Nat.lt_of_not_le htick
      have hlap := ih (orderly_lap h hphase) rfl (listed_lap h hphase hlisted hbefore)
      refine ⟨hlap.stopped, hlap.listed, fun hdue => Or.inr ?_⟩
      rcases hlap.eager hdue with hlate | hlast
      · have hnext : shutdown ≤ (t.lap cycle now).ticker.next ended :=
          Nat.le_trans hlate (Nat.le_max_left ..)
        refine ⟨⟨tick, ended, c.outcome⟩, ?_, hlate⟩
        exact (congrArg (·.history.head?) (run_of_shutdown hnext)).trans rfl
      · exact hlast

/-- What a task does that is left to itself is a sequence of events that are possible. -/
theorem exists_steps_run (hphase : t.phase = .waiting) (htold : t.shutdown = false) :
    ∃ es, t.steps? es = some (t.run cycle shutdown now) := by
  fun_induction run cycle shutdown now t with
  | case1 now t tick hshutdown =>
      refine ⟨[.shutdown, .wake (max now shutdown)], ?_⟩
      have hstop : t.cancel.step? (.wake (max now shutdown))
          = some (t.cancel.stop (max now shutdown)) :=
        step?_stop (t := t.cancel) hphase rfl _
      simp [steps?, step?_shutdown, hstop]
  | case2 now t tick htick c ended ih =>
      obtain ⟨es, hes⟩ := ih rfl htold
      refine ⟨.wake tick :: .finish ended c.outcome :: es, ?_⟩
      have hstart : t.step? (.wake tick) = some (t.start tick) :=
        step?_start hphase htold (Nat.le_max_right ..)
      have hfinish : (t.start tick).step? (.finish ended c.outcome)
          = some ((t.start tick).finish tick ended c.outcome) :=
        step?_finish rfl (Nat.le_add_right ..) _
      simp only [steps?] at hes ⊢
      simp [hstart, hfinish, hes]

/-- The task with all that its cycles came to forgotten. -/
def unjudged (t : AlertTask) : AlertTask :=
  { t with history := t.history.map fun c => { c with outcome := .noMatch } }

theorem unjudged_lap {cycle' : Nat → CycleLength} (htook : ∀ n, (cycle n).took = (cycle' n).took)
    (h : t.unjudged = t'.unjudged) :
    (t.lap cycle now).unjudged = (t'.lap cycle' now).unjudged := by
  simp only [unjudged, AlertTask.mk.injEq] at h
  obtain ⟨hticker, -, hshutdown, hstarted, hcycles, hhistory⟩ := h
  simp [lap, finish, start, unjudged, hticker, hshutdown, hstarted, hcycles, hhistory, htook]

/-- **What its cycles come to makes no difference to a task**: it starts and ends the same number
of them at the same moments, and stops at the same moment. -/
theorem run_unjudged {cycle' : Nat → CycleLength}
    (htook : ∀ n, (cycle n).took = (cycle' n).took) :
    ∀ t' : AlertTask, t.unjudged = t'.unjudged →
      (t.run cycle shutdown now).unjudged = (t'.run cycle' shutdown now).unjudged := by
  fun_induction run cycle shutdown now t with
  | case1 now t tick hshutdown =>
      intro t' h
      simp only [unjudged, AlertTask.mk.injEq] at h
      obtain ⟨hticker, -, -, hstarted, hcycles, hhistory⟩ := h
      have hsame : shutdown ≤ t'.ticker.next now := by
        rw [← hticker]
        exact hshutdown
      rw [run_of_shutdown hsame]
      simp [unjudged, cancel, stop, hticker, hstarted, hcycles, hhistory]
  | case2 now t tick htick c ended ih =>
      intro t' h
      have hlap : (t.lap cycle now).unjudged = (t'.lap cycle' now).unjudged :=
        unjudged_lap htook h
      simp only [unjudged, AlertTask.mk.injEq] at h
      obtain ⟨hticker, -, -, hstarted, -⟩ := h
      have hsame : t'.ticker.next now < shutdown := by
        rw [← hticker]
        exact Nat.lt_of_not_le htick
      rw [run_of_tick hsame, ← hticker, ← hstarted, ← htook]
      exact ih _ hlap

end AlertTask

end Lookout
