/-
What an evaluation on a pool at rest comes to.

A pool is at rest when nobody holds a slot of it: every free slot has a worker of its own that
waits for a job, with the interpreter that the pool was started with.  An evaluation takes the
slot on top through all of its steps and gives it back.  Its answer is what that interpreter
makes of the job, and the pool is at rest again behind it, also when the job was given up on or
its worker died and had to be replaced.
-/
import Lookout.Proofs.Pool.Isolation

namespace Lookout.Pool

open Script (Interpreter Outcome Trouble)

/-- A pool that nobody holds a slot of. -/
structure AtRest (i : Interpreter) (top : Nat) (p : Pool) : Prop where
  fresh : p.fresh = i
  permits : 0 < p.permits
  handles : p.handles = []
  /-- The number of the slot that is taken next. -/
  top : p.free.head?.map (·.id) = some top
  /-- No two free slots share a worker. -/
  distinct : (p.free.map (·.worker)).Nodup
  /-- The workers of free slots wait for jobs. -/
  idle : ∀ slot ∈ p.free, p.workers[slot.worker]? = some (Worker.new i)

variable {p : Pool} {i : Interpreter} {slot : Slot} {rest : List Slot} {request : EvalRequest}

/-! ### Taking a slot and sending a job -/

/-- The pool at rest with the slot on top taken and a job begun on it. -/
def begun (p : Pool) (slot : Slot) (rest : List Slot) (request : EvalRequest) : Pool :=
  { p with
    permits := p.permits - 1
    free := rest
    workers := p.workers.setIfInBounds slot.worker ⟨p.fresh, [], some p.jobs.size, .working⟩
    jobs := p.jobs.push ⟨request, false, .waiting⟩
    handles := [(p.nextHandle, .held slot (.running p.jobs.size))]
    nextHandle := p.nextHandle + 1 }

/-- The pool at rest with the slot on top taken. -/
def taken (p : Pool) (slot : Slot) (rest : List Slot) : Pool :=
  { p with
    permits := p.permits - 1
    free := rest
    handles := [(p.nextHandle, .held slot .idle)]
    nextHandle := p.nextHandle + 1 }

theorem acquire?_eq (hpermits : 0 < p.permits) (hhandles : p.handles = [])
    (hfree : p.free = slot :: rest) : p.acquire? = some (p.nextHandle, p.taken slot rest) := by
  simp [acquire?, steps?, step?, takePermit, popSlot, holding?, Pool.hold, taken, hhandles, hfree,
    Nat.ne_of_gt hpermits]

theorem start_send_eq (hw : p.workers[slot.worker]? = some (Worker.new p.fresh)) :
    ((p.taken slot rest).after [.send p.nextHandle request]).after [.start slot.worker]
      = p.begun slot rest request := by
  obtain ⟨hlt, -⟩ := Array.getElem?_eq_some_iff.mp hw
  have hsent : (p.taken slot rest).after [.send p.nextHandle request] = { p.taken slot rest with
      workers := p.workers.setIfInBounds slot.worker ⟨p.fresh, [p.jobs.size], none, .working⟩
      jobs := p.jobs.push ⟨request, false, .waiting⟩
      handles := [(p.nextHandle, .held slot (.running p.jobs.size))] } := by
    simp [after, steps?, step?, send, holding?, Pool.hold, taken, modifyWorker, hw,
      modify_eq_set _ hw, Worker.new]
  rw [hsent]
  have hw' : (p.workers.setIfInBounds slot.worker
      ⟨p.fresh, [p.jobs.size], none, .working⟩)[slot.worker]?
        = some ⟨p.fresh, [p.jobs.size], none, .working⟩ :=
    Array.getElem?_setIfInBounds_self_of_lt hlt
  simp [after, steps?, step?, start, modifyWorker, hw', modify_eq_set _ hw', begun, taken]

/-! ### Giving the slot back -/

theorem release_idle {h : Nat} (hh : p.handles = [(h, .held slot .idle)]) :
    p.after [.dropHandle h, .returnPermit h]
      = { p with free := slot :: p.free, permits := p.permits + 1, handles := [] } := by
  simp [after, steps?, step?, Pool.dropHandle, Pool.returnPermit, holding?, Pool.hold, hh]

theorem release_running {h j : Nat} (hh : p.handles = [(h, .held slot (.running j))]) :
    p.after [.dropHandle h, .returnPermit h]
      = { p with
          free := slot :: p.free
          permits := p.permits + 1
          jobs := p.jobs.modify j fun job => { job with cancelled := true }
          handles := [] } := by
  simp [after, steps?, step?, Pool.dropHandle, Pool.returnPermit, holding?, Pool.hold, hh,
    Pool.modifyJob]

theorem release_dead {h : Nat} (hh : p.handles = [(h, .held slot .dead)]) :
    p.after [.dropHandle h, .returnPermit h]
      = { p with
          free := ⟨slot.id, p.workers.size⟩ :: p.free
          permits := p.permits + 1
          workers := p.workers.push (Worker.new p.fresh)
          live := p.live + 1
          handles := [] } := by
  simp [after, steps?, step?, Pool.dropHandle, Pool.returnPermit, holding?, Pool.hold, hh]

/-! ### The three ends of a run -/

variable {result : Except Trouble Outcome × Interpreter}

/-- The worker of a job that has begun. -/
theorem begun_worker (hw : p.workers[slot.worker]? = some (Worker.new p.fresh)) :
    (p.begun slot rest request).workers[slot.worker]?
      = some ⟨p.fresh, [], some p.jobs.size, .working⟩ := by
  obtain ⟨hlt, -⟩ := Array.getElem?_eq_some_iff.mp hw
  exact Array.getElem?_setIfInBounds_self_of_lt hlt

theorem runOf_begun (hw : p.workers[slot.worker]? = some (Worker.new p.fresh))
    (patience : Option Nat) :
    (p.begun slot rest request).runOf slot.worker patience
      = some (p.jobs.size, p.fresh.run patience request.script request.context) := by
  unfold runOf
  rw [begun_worker hw]
  show ((p.jobs.push ⟨request, false, .waiting⟩)[p.jobs.size]?).map _ = _
  rw [Array.getElem?_push_size]
  rfl

/-- The worker that answered a job is as it was before. -/
theorem reply_begun (hw : p.workers[slot.worker]? = some (Worker.new p.fresh))
    (hkept : result.2 = p.fresh) :
    (p.begun slot rest request).reply slot.worker p.jobs.size result
      = { p.begun slot rest request with
          workers := p.workers
          jobs := p.jobs.push ⟨request, false, .answered result.1⟩ } := by
  unfold Pool.reply modifyWorker modifyJob
  dsimp only
  rw [modify_eq_set _ (begun_worker hw), hkept]
  dsimp only [begun]
  rw [modify_push, Array.setIfInBounds_setIfInBounds]
  congr 1
  exact set_self hw

/-- A run that ends with an answer: the caller is told, and everything is given back. -/
theorem conclude_answer (hw : p.workers[slot.worker]? = some (Worker.new p.fresh))
    (hkept : result.2 = p.fresh) (halive : isDeath result.1 = false)
    (hfull : result.1 ≠ .error .cancelled) :
    (p.begun slot rest request).conclude p.nextHandle slot.worker p.jobs.size result
      = (.answered (result.1.mapError .trouble), { p with
          permits := p.permits - 1 + 1
          free := slot :: rest
          jobs := p.jobs.push ⟨request, false, .answered result.1⟩
          handles := []
          nextHandle := p.nextHandle + 1
          answers := ⟨p.jobs.size, result.1.mapError .trouble⟩ :: p.answers }) := by
  have htold : ((p.begun slot rest request).reply slot.worker p.jobs.size result).after
      [.receive p.nextHandle] = { p.taken slot rest with
        jobs := p.jobs.push ⟨request, false, .answered result.1⟩
        answers := ⟨p.jobs.size, result.1.mapError .trouble⟩ :: p.answers } := by
    rw [reply_begun hw hkept]
    cases result.1 with
    | ok o =>
        simp [after, steps?, step?, Pool.receive, begun, taken, holding?, Pool.hold,
          Except.mapError]
    | error t =>
        simp [after, steps?, step?, Pool.receive, begun, taken, holding?, Pool.hold,
          Except.mapError]
  unfold conclude
  rw [if_neg (by rw [halive]; exact Bool.false_ne_true)]
  split
  · case _ hcancelled => exact absurd hcancelled hfull
  · dsimp only
    rw [htold, release_idle rfl]
    rfl

/-- A run that was given up on: everything is given back before the worker stops. -/
theorem conclude_cancelled (hw : p.workers[slot.worker]? = some (Worker.new p.fresh))
    (hkept : result.2 = p.fresh) (hcancelled : result.1 = .error .cancelled) :
    (p.begun slot rest request).conclude p.nextHandle slot.worker p.jobs.size result
      = (.gaveUp, { p with
          permits := p.permits - 1 + 1
          free := slot :: rest
          jobs := p.jobs.push ⟨request, true, .answered result.1⟩
          handles := []
          nextHandle := p.nextHandle + 1 }) := by
  unfold conclude
  rw [if_neg (by rw [hcancelled]; exact Bool.false_ne_true), hcancelled]
  dsimp only
  rw [release_running rfl]
  unfold Pool.reply modifyWorker modifyJob
  dsimp only
  rw [modify_eq_set _ (begun_worker hw), hkept]
  dsimp only [begun]
  rw [modify_push, modify_push, Array.setIfInBounds_setIfInBounds,
    set_self (x := (⟨p.fresh, [], none, .working⟩ : Worker)) hw, hcancelled]

/-- A run that killed its worker: the caller learns that it is lost, and another one takes its
place. -/
theorem conclude_death (hw : p.workers[slot.worker]? = some (Worker.new p.fresh))
    (hdead : result.1 = .error .died) :
    (p.begun slot rest request).conclude p.nextHandle slot.worker p.jobs.size result
      = (.answered (.error (.stopped slot.id)), { p with
          permits := p.permits - 1 + 1
          free := ⟨slot.id, p.workers.size⟩ :: rest
          live := p.live - 1 + 1
          workers := (p.workers.setIfInBounds slot.worker ⟨p.fresh, [], none, .gone⟩).push
            (Worker.new p.fresh)
          jobs := p.jobs.push ⟨request, false, .closed⟩
          handles := []
          nextHandle := p.nextHandle + 1
          answers := ⟨p.jobs.size, .error (.stopped slot.id)⟩ :: p.answers }) := by
  have hlt := (Array.getElem?_eq_some_iff.mp hw).1
  have hset : ∀ k : Worker, (p.workers.setIfInBounds slot.worker k)[slot.worker]? = some k :=
    fun k => Array.getElem?_setIfInBounds_self_of_lt hlt
  have htold : (p.begun slot rest request).after
      [.die slot.worker, .uncount slot.worker, .closeQueue slot.worker, .receive p.nextHandle]
        = { p.taken slot rest with
            live := p.live - 1
            workers := p.workers.setIfInBounds slot.worker ⟨p.fresh, [], none, .gone⟩
            jobs := p.jobs.push ⟨request, false, .closed⟩
            handles := [(p.nextHandle, .held slot .dead)]
            answers := ⟨p.jobs.size, .error (.stopped slot.id)⟩ :: p.answers } := by
    simp [after, steps?, step?, Pool.die, Pool.uncount, Pool.closeQueue, Pool.receive, begun,
      taken, holding?, Pool.hold, modifyWorker, modifyJob, hset, modify_eq_set _ (hset _),
      modify_push, Array.setIfInBounds_setIfInBounds]
  unfold conclude
  rw [if_pos (by rw [hdead]; rfl)]
  dsimp only
  rw [htold, release_dead rfl]
  simp [lastAnswer, taken]

/-! ### Evaluations -/

/-- An evaluation takes the slot on top and concludes with the run of its job. -/
theorem evaluate_eq_conclude (hpermits : 0 < p.permits) (hhandles : p.handles = [])
    (hfree : p.free = slot :: rest)
    (hw : p.workers[slot.worker]? = some (Worker.new p.fresh)) (patience : Option Nat)
    (request : EvalRequest) :
    p.evaluate patience request = (p.begun slot rest request).conclude p.nextHandle slot.worker
      p.jobs.size (p.fresh.run patience request.script request.context) := by
  unfold Pool.evaluate
  rw [acquire?_eq hpermits hhandles hfree]
  dsimp only
  have hslot : (p.taken slot rest).slotOf? p.nextHandle = some slot := by
    simp [slotOf?, holding?, taken]
  rw [hslot]
  dsimp only
  rw [start_send_eq hw, runOf_begun hw]

variable {top : Nat}

namespace AtRest

/-- The pool is at rest again once everything is given back and the same worker is there. -/
theorem sameWorkers (c : AtRest i top p) {jobs : Array Job} {nextHandle : Nat}
    {answers : List Answer} : AtRest i top { p with
      permits := p.permits - 1 + 1
      jobs := jobs
      handles := []
      nextHandle := nextHandle
      answers := answers } where
  fresh := c.fresh
  permits := Nat.succ_pos _
  handles := rfl
  top := c.top
  distinct := c.distinct
  idle := c.idle

/-- The pool is at rest again once a new worker has taken the place of a dead one. -/
theorem newWorker (c : AtRest i top p) (hfree : p.free = slot :: rest) (dead : Worker)
    {live nextHandle : Nat} {jobs : Array Job} {answers : List Answer} : AtRest i top { p with
      permits := p.permits - 1 + 1
      free := ⟨slot.id, p.workers.size⟩ :: rest
      live := live
      workers := (p.workers.setIfInBounds slot.worker dead).push (Worker.new p.fresh)
      jobs := jobs
      handles := []
      nextHandle := nextHandle
      answers := answers } := by
  have htop := c.top
  have hdistinct := c.distinct
  rw [hfree] at htop hdistinct
  obtain ⟨hnot, hrest⟩ := List.nodup_cons.mp hdistinct
  have hidle : ∀ s ∈ rest, p.workers[s.worker]? = some (Worker.new i) :=
    fun s hs => c.idle s (by rw [hfree]; exact List.mem_cons_of_mem _ hs)
  have hother : ∀ s ∈ rest, slot.worker ≠ s.worker :=
    fun s hs heq => hnot (List.mem_map.mpr ⟨s, hs, heq.symm⟩)
  refine ⟨c.fresh, Nat.succ_pos _, rfl, htop, ?_, ?_⟩
  · refine List.nodup_cons.mpr ⟨fun hmem => ?_, hrest⟩
    obtain ⟨s, hs, heq⟩ := List.mem_map.mp hmem
    have hlt := (Array.getElem?_eq_some_iff.mp (hidle s hs)).1
    rw [heq] at hlt
    exact Nat.lt_irrefl _ hlt
  · intro s hs
    rcases List.mem_cons.mp hs with rfl | hs
    · have hsize : (p.workers.setIfInBounds slot.worker dead).size = p.workers.size :=
        Array.size_setIfInBounds
      show ((p.workers.setIfInBounds slot.worker dead).push _)[p.workers.size]? = _
      rw [← hsize, Array.getElem?_push_size, c.fresh]
    · apply getElem?_push_of_some
      rw [Array.getElem?_setIfInBounds_ne (hother s hs)]
      exact hidle s hs

/-- The slot on top of a pool at rest, with a worker that waits for a job. -/
theorem exists_top (c : AtRest i top p) : ∃ slot rest, p.free = slot :: rest ∧ slot.id = top ∧
    p.workers[slot.worker]? = some (Worker.new p.fresh) := by
  have htop := c.top
  cases hfree : p.free with
  | nil => rw [hfree] at htop; cases htop
  | cons slot rest =>
      rw [hfree] at htop
      refine ⟨slot, rest, rfl, Option.some.inj htop, ?_⟩
      rw [c.fresh]
      exact c.idle slot (by rw [hfree]; exact List.mem_cons_self)

/-- **An evaluation on a pool at rest** is the run of its job on the interpreter of the pool, and
the pool is at rest behind it with the same slot on top. -/
theorem evaluate (c : AtRest i top p) (patience : Option Nat) (request : EvalRequest) :
    (p.evaluate patience request).1
        = .ofRun top (i.run patience request.script request.context).1 ∧
      AtRest i top (p.evaluate patience request).2 := by
  obtain ⟨slot, rest, hfree, rfl, hw⟩ := c.exists_top
  obtain rfl : p.fresh = i := c.fresh
  have hkept := p.fresh.run_snd patience request.script request.context
  rw [evaluate_eq_conclude c.permits c.handles hfree hw]
  have hsame := @sameWorkers _ _ _ c
  rw [hfree] at hsame
  by_cases hdead : (p.fresh.run patience request.script request.context).1 = .error .died
  · rw [conclude_death hw hdead, hdead]
    exact ⟨rfl, c.newWorker hfree _⟩
  by_cases hcancelled : (p.fresh.run patience request.script request.context).1 = .error .cancelled
  · rw [conclude_cancelled hw hkept hcancelled, hcancelled]
    exact ⟨rfl, hsame⟩
  · have halive := isDeath_eq_false hdead
    rw [conclude_answer hw hkept halive hcancelled]
    exact ⟨(Evaluation.ofRun_eq _ halive hcancelled).symm, hsame⟩

/-- A job that may run as long as it likes is not given up on. -/
theorem evaluate_none_ne_gaveUp (c : AtRest i top p) (request : EvalRequest) :
    (p.evaluate none request).1 ≠ .gaveUp := by
  rw [(c.evaluate none request).1]
  intro hgaveUp
  unfold Evaluation.ofRun at hgaveUp
  split at hgaveUp
  · cases hgaveUp
  · case _ hcancelled => exact i.run_none_ne_cancelled _ _ hcancelled
  · cases hgaveUp

end AtRest

/-- Without a permit an evaluation is given up on, and the pool is not touched. -/
theorem evaluate_full (h : p.permits = 0) (patience : Option Nat) (request : EvalRequest) :
    p.evaluate patience request = (.gaveUp, p) := by
  simp [Pool.evaluate, acquire?, steps?, step?, takePermit, h]

/-- A new pool is at rest. -/
theorem atRest_new {size : Nat} (hsize : 0 < size) (i : Interpreter) :
    AtRest i (size - 1) (new size i) where
  fresh := rfl
  permits := hsize
  handles := rfl
  top := by
    obtain ⟨n, rfl⟩ : ∃ n, size = n + 1 := ⟨size - 1, (Nat.succ_pred_eq_of_pos hsize).symm⟩
    show (((List.range (n + 1)).map fun i => (⟨i, i⟩ : Slot)).reverse.head?).map _ = _
    rw [List.range_succ, List.map_append, List.reverse_append]
    rfl
  distinct := by
    show ((((List.range size).map fun i => (⟨i, i⟩ : Slot)).reverse).map (·.worker)).Nodup
    rw [List.map_reverse, List.nodup_reverse, List.map_map]
    exact (List.nodup_range).map fun a b h => h
  idle := fun slot hs => by
    obtain ⟨w, hw, rfl⟩ := List.mem_map.mp (List.mem_reverse.mp hs)
    show (Array.replicate size (Worker.new i))[w]? = _
    rw [Array.getElem?_replicate, if_pos (List.mem_range.mp hw)]

/-- A pool that could be started has at least one slot, and its workers all start alike. -/
theorem eq_new_of_create {size : Nat} {helpers : Option String} {p : Pool}
    (h : create size helpers = .ok p) : ∃ i, 0 < size ∧ p = new size i := by
  unfold create at h
  split at h
  · cases h
  · case isFalse hsize =>
    split at h
    · case _ i _ =>
      cases h
      exact ⟨i, Nat.pos_of_ne_zero hsize, rfl⟩
    · cases h

end Lookout.Pool
