/-
What one step of a pool does.

Each step is possible only in some states, and it changes only some of the fields.  The lemmas
here say both at once, one for each step: from the state behind it they give the conditions
under which it was possible and the state that it leads to.  Every invariant of a pool is then
shown by looking at these states, and no proof has to open the definition of a step again.

The steps of workers leave the permits, the free slots and the handles alone.  What they do
leave alone is collected in `SameLedger`.
-/
import Lookout.Pool.Step

namespace Lookout.Pool

open Script (Interpreter Outcome Trouble)

variable {p q : Pool}

/-! ### The helpers of a step, field by field -/

@[simp] theorem hold_free (h : Nat) (c : Holding) : (p.hold h c).free = p.free := rfl
@[simp] theorem hold_workers (h : Nat) (c : Holding) : (p.hold h c).workers = p.workers := rfl
@[simp] theorem hold_jobs (h : Nat) (c : Holding) : (p.hold h c).jobs = p.jobs := rfl

/-- The jobs of a pool, those in a queue closed. -/
def closed (queue : List Nat) (jobs : Array Job) : Array Job :=
  queue.foldl (fun jobs j => jobs.modify j fun job => { job with reply := .closed }) jobs

/-- A queue let go of changes nothing but jobs. -/
theorem foldl_close (queue : List Nat) :
    ∀ p : Pool, queue.foldl (fun p j => p.modifyJob j fun job => { job with reply := .closed }) p
      = { p with jobs := closed queue p.jobs } := by
  induction queue with
  | nil => intro p; rfl
  | cons j rest ih =>
      intro p
      rw [List.foldl_cons, ih]
      rfl

/-! ### When a step is possible, and what it leads to -/

theorem takePermit_cases (hs : p.takePermit = some q) :
    0 < p.permits ∧ q = { p with
      permits := p.permits - 1
      handles := (p.nextHandle, .permitted) :: p.handles
      nextHandle := p.nextHandle + 1 } := by
  unfold takePermit at hs
  split at hs
  · cases hs
  · rename_i hpos
    exact ⟨Nat.pos_of_ne_zero hpos, (Option.some.inj hs).symm⟩

theorem popSlot_cases {h : Nat} (hs : p.popSlot h = some q) :
    p.holding? h = some .permitted ∧
      ((∃ slot rest, p.free = slot :: rest ∧
          q = ({ p with free := rest } : Pool).hold h (.held slot .idle)) ∨
        (p.free = [] ∧ q = p.hold h .refused)) := by
  unfold popSlot at hs
  split at hs
  · rename_i slot rest hh hf
    exact ⟨hh, Or.inl ⟨slot, rest, hf, (Option.some.inj hs).symm⟩⟩
  · rename_i hh hf
    exact ⟨hh, Or.inr ⟨hf, (Option.some.inj hs).symm⟩⟩
  · cases hs

theorem send_cases {h : Nat} {request : EvalRequest} (hs : p.send h request = some q) :
    ∃ slot w, p.holding? h = some (.held slot .idle) ∧ p.workers[slot.worker]? = some w ∧
      ((w.phase = .gone ∧ q = ({ p with
          jobs := p.jobs.push ⟨request, false, .closed⟩
          answers := ⟨p.jobs.size, .error (.gone slot.id)⟩ :: p.answers } : Pool).hold h
            (.held slot .dead)) ∨
        (w.phase ≠ .gone ∧ q = (({ p with
          jobs := p.jobs.push ⟨request, false, .waiting⟩ } : Pool).modifyWorker slot.worker
            fun w => { w with queue := w.queue ++ [p.jobs.size] }).hold h
              (.held slot (.running p.jobs.size)))) := by
  unfold send at hs
  split at hs
  · rename_i slot hh
    split at hs
    · cases hs
    · rename_i hw
      obtain ⟨w, hw, hphase⟩ := Option.map_eq_some_iff.mp hw
      exact ⟨slot, w, hh, hw, Or.inl ⟨hphase, (Option.some.inj hs).symm⟩⟩
    · rename_i phase hne hw
      obtain ⟨w, hw, hphase⟩ := Option.map_eq_some_iff.mp hw
      refine ⟨slot, w, hh, hw, Or.inr ⟨?_, (Option.some.inj hs).symm⟩⟩
      intro hgone
      exact hne (by rw [← hphase, hgone])
  · cases hs

theorem start_cases {w : Nat} (hs : p.start w = some q) :
    ∃ i j queue, p.workers[w]? = some ⟨i, j :: queue, none, .working⟩ ∧
      q = p.modifyWorker w fun k => { k with queue := queue, current := some j } := by
  unfold start at hs
  split at hs
  · rename_i i j queue hw
    exact ⟨i, j, queue, hw, (Option.some.inj hs).symm⟩
  · cases hs

theorem runOf_cases {w j : Nat} {cancelAt : Option Nat}
    {result : Except Trouble Outcome × Interpreter} (hr : p.runOf w cancelAt = some (j, result)) :
    ∃ i queue job, p.workers[w]? = some ⟨i, queue, some j, .working⟩ ∧ p.jobs[j]? = some job ∧
      result = i.run cancelAt job.request.script job.request.context := by
  unfold runOf at hr
  split at hr
  · rename_i i queue j' hw
    obtain ⟨job, hjob, heq⟩ := Option.map_eq_some_iff.mp hr
    obtain ⟨rfl, rfl⟩ := Prod.mk.inj heq
    exact ⟨i, queue, job, hw, hjob, rfl⟩
  · cases hr

theorem finish_cases {w : Nat} {cancelAt : Option Nat} (hs : p.finish w cancelAt = some q) :
    ∃ i queue j job, p.workers[w]? = some ⟨i, queue, some j, .working⟩ ∧ p.jobs[j]? = some job ∧
      isDeath (i.run cancelAt job.request.script job.request.context).1 = false ∧
      (cancelAt.isSome = true → job.cancelled = true) ∧
      q = p.reply w j (i.run cancelAt job.request.script job.request.context) := by
  unfold finish at hs
  split at hs
  · rename_i j result hr
    obtain ⟨i, queue, job, hw, hjob, rfl⟩ := runOf_cases hr
    simp only [hjob] at hs
    split at hs
    · cases hs
    · rename_i hcond
      simp only [Option.any_some, Bool.or_eq_true, Bool.and_eq_true, Bool.not_eq_true',
        not_or, not_and, Bool.not_eq_true, Bool.not_eq_false] at hcond
      exact ⟨i, queue, j, job, hw, hjob, hcond.1, hcond.2, (Option.some.inj hs).symm⟩
  · cases hs

theorem die_cases {w : Nat} (hs : p.die w = some q) :
    ∃ i queue j, p.workers[w]? = some ⟨i, queue, some j, .working⟩ ∧
      q = (p.modifyJob j fun job => { job with reply := .closed }).modifyWorker w fun k =>
        { k with current := none, phase := .dying } := by
  unfold die at hs
  split at hs
  · rename_i i queue j hw
    exact ⟨i, queue, j, hw, (Option.some.inj hs).symm⟩
  · cases hs

theorem uncount_cases {w : Nat} (hs : p.uncount w = some q) :
    ∃ k, p.workers[w]? = some k ∧ k.phase = .dying ∧
      q = ({ p with live := p.live - 1 } : Pool).modifyWorker w fun k =>
        { k with phase := .uncounted } := by
  unfold uncount at hs
  split at hs
  · rename_i hw
    obtain ⟨k, hk, hphase⟩ := Option.map_eq_some_iff.mp hw
    exact ⟨k, hk, hphase, (Option.some.inj hs).symm⟩
  · cases hs

theorem closeQueue_cases {w : Nat} (hs : p.closeQueue w = some q) :
    ∃ i queue current, p.workers[w]? = some ⟨i, queue, current, .uncounted⟩ ∧
      q = ({ p with jobs := closed queue p.jobs } : Pool).modifyWorker w fun k =>
        { k with queue := [], phase := .gone } := by
  unfold closeQueue at hs
  split at hs
  · rename_i i queue current hw
    refine ⟨i, queue, current, hw, ?_⟩
    rw [← Option.some.inj hs, foldl_close]
  · cases hs

theorem receive_cases {h : Nat} (hs : p.receive h = some q) :
    ∃ slot j job, p.holding? h = some (.held slot (.running j)) ∧ p.jobs[j]? = some job ∧
      ((∃ o, job.reply = .answered (.ok o) ∧
          q = ({ p with answers := ⟨j, .ok o⟩ :: p.answers } : Pool).hold h (.held slot .idle)) ∨
        (∃ t, job.reply = .answered (.error t) ∧
          q = ({ p with answers := ⟨j, .error (.trouble t)⟩ :: p.answers } : Pool).hold h
            (.held slot .idle)) ∨
        (job.reply = .closed ∧
          q = ({ p with answers := ⟨j, .error (.stopped slot.id)⟩ :: p.answers } : Pool).hold h
            (.held slot .dead))) := by
  unfold receive at hs
  split at hs
  · rename_i slot j hh
    split at hs
    · rename_i outcome hr
      obtain ⟨job, hjob, hreply⟩ := Option.map_eq_some_iff.mp hr
      refine ⟨slot, j, job, hh, hjob, ?_⟩
      cases outcome with
      | ok o => exact Or.inl ⟨o, hreply, (Option.some.inj hs).symm⟩
      | error t => exact Or.inr (Or.inl ⟨t, hreply, (Option.some.inj hs).symm⟩)
    · rename_i hr
      obtain ⟨job, hjob, hreply⟩ := Option.map_eq_some_iff.mp hr
      exact ⟨slot, j, job, hh, hjob, Or.inr (Or.inr ⟨hreply, (Option.some.inj hs).symm⟩)⟩
    · cases hs
  · cases hs

theorem dropHandle_cases {h : Nat} (hs : p.dropHandle h = some q) :
    ∃ slot state, p.holding? h = some (.held slot state) ∧
      ((state = .idle ∧ q = ({ p with free := slot :: p.free } : Pool).hold h .dropped) ∨
        (∃ j, state = .running j ∧
          q = (({ p with free := slot :: p.free } : Pool).modifyJob j fun job =>
            { job with cancelled := true }).hold h .dropped) ∨
        (state = .dead ∧ q = ({ p with
          workers := p.workers.push (Worker.new p.fresh)
          live := p.live + 1
          free := ⟨slot.id, p.workers.size⟩ :: p.free } : Pool).hold h .dropped)) := by
  unfold dropHandle at hs
  split at hs
  · rename_i slot hh
    exact ⟨slot, _, hh, Or.inl ⟨rfl, (Option.some.inj hs).symm⟩⟩
  · rename_i slot j hh
    exact ⟨slot, _, hh, Or.inr (Or.inl ⟨j, rfl, (Option.some.inj hs).symm⟩)⟩
  · rename_i slot hh
    exact ⟨slot, _, hh, Or.inr (Or.inr ⟨rfl, (Option.some.inj hs).symm⟩)⟩
  · cases hs

theorem returnPermit_cases {h : Nat} (hs : p.returnPermit h = some q) :
    (p.holding? h = some .dropped ∨ p.holding? h = some .refused) ∧ q = { p with
      permits := p.permits + 1
      handles := p.handles.filter fun e => e.1 ≠ h } := by
  unfold returnPermit at hs
  split at hs
  · rename_i hh
    exact ⟨Or.inl hh, (Option.some.inj hs).symm⟩
  · rename_i hh
    exact ⟨Or.inr hh, (Option.some.inj hs).symm⟩
  · cases hs

/-! ### What the steps of workers leave alone -/

/-- Two states with the same permits, free slots and handles. -/
structure SameLedger (p q : Pool) : Prop where
  size : q.size = p.size
  permits : q.permits = p.permits
  free : q.free = p.free
  handles : q.handles = p.handles
  nextHandle : q.nextHandle = p.nextHandle

/-- Whether a step is one of a worker. -/
def Event.ofWorker : Event → Bool
  | .start _ | .finish _ _ | .die _ | .uncount _ | .closeQueue _ => true
  | _ => false

theorem step?_sameLedger {e : Event} (he : e.ofWorker = true) (hs : p.step? e = some q) :
    SameLedger p q := by
  cases e with
  | start w =>
      obtain ⟨_, _, _, _, rfl⟩ := start_cases hs
      exact ⟨rfl, rfl, rfl, rfl, rfl⟩
  | finish w cancelAt =>
      obtain ⟨_, _, _, _, _, _, _, _, rfl⟩ := finish_cases hs
      exact ⟨rfl, rfl, rfl, rfl, rfl⟩
  | die w =>
      obtain ⟨_, _, _, _, rfl⟩ := die_cases hs
      exact ⟨rfl, rfl, rfl, rfl, rfl⟩
  | uncount w =>
      obtain ⟨_, _, _, rfl⟩ := uncount_cases hs
      exact ⟨rfl, rfl, rfl, rfl, rfl⟩
  | closeQueue w =>
      obtain ⟨_, _, _, _, rfl⟩ := closeQueue_cases hs
      exact ⟨rfl, rfl, rfl, rfl, rfl⟩
  | _ => cases he

/-! ### Runs -/

theorem steps?_cons (e : Event) (es : List Event) (p : Pool) :
    p.steps? (e :: es) = (p.step? e).bind (·.steps? es) := by
  cases h : p.step? e with
  | none => simp [steps?, h]
  | some q => simp [steps?, h]

/-- What every step preserves, every run preserves. -/
theorem steps?_induct {P : Pool → Prop} (hstep : ∀ p q e, P p → p.step? e = some q → P q) :
    ∀ (es : List Event) {p q : Pool}, P p → p.steps? es = some q → P q := by
  intro es
  induction es with
  | nil =>
      intro p q hp hs
      cases hs
      exact hp
  | cons e rest ih =>
      intro p q hp hs
      rw [steps?_cons] at hs
      obtain ⟨mid, hmid, hrest⟩ := Option.bind_eq_some_iff.mp hs
      exact ih (hstep p mid e hp hmid) hrest

/-- A run of two parts is a run of the first part and then one of the second. -/
theorem steps?_append (es fs : List Event) :
    ∀ p : Pool, p.steps? (es ++ fs) = (p.steps? es).bind (·.steps? fs) := by
  induction es with
  | nil => intro p; rfl
  | cons e rest ih =>
      intro p
      rw [List.cons_append, steps?_cons, steps?_cons]
      cases p.step? e with
      | none => rfl
      | some q => exact ih q

end Lookout.Pool
