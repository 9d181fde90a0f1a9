/-
A job is answered as if it were the only one that its pool ever ran.

Workers keep their interpreters between jobs, and jobs are given to whichever worker is free; but
no run changes the interpreter it runs in, and a worker that takes the place of a dead one starts
like all the others.  So in every state that a pool can be in all interpreters are the one it was
started with, and what a caller is told about its job is what that interpreter makes of it, in
whatever order other jobs were sent, given up on or lost with their worker.

The invariant needs one thing more.  A run that was stopped early answers too, and its answer is
not the one a full run gives; but only a job whose caller has left is stopped, and nobody
receives that answer.  This is why `Isolated` keeps track of which handle waits for which job.
-/
import Lookout.Proofs.Pool.Conservation
import Lookout.Proofs.Script.Limit

namespace Lookout.Pool

open Script (Interpreter Outcome Trouble)

/-- The job that a handle waits for. -/
def Holding.job? : Holding → Option Nat
  | held _ (.running j) => some j
  | _ => none

theorem isDeath_iff {result : Except Trouble Outcome} :
    isDeath result = true ↔ result = .error .died := by
  unfold isDeath
  split
  · exact ⟨fun _ => rfl, fun _ => rfl⟩
  · case _ hne => exact ⟨fun h => (by cases h), fun h => absurd h hne⟩

theorem isDeath_eq_false {result : Except Trouble Outcome} (h : result ≠ .error .died) :
    isDeath result = false :=
  Bool.eq_false_iff.mpr fun hdeath => h (isDeath_iff.mp hdeath)

/-- What the run of a job comes to for a caller that holds a slot. -/
def Evaluation.ofRun (slot : Nat) : Except Trouble Outcome → Evaluation
  | .error .died => .answered (.error (.stopped slot))
  | .error .cancelled => .gaveUp
  | result => .answered (result.mapError .trouble)

theorem Evaluation.ofRun_eq {result : Except Trouble Outcome} (slot : Nat)
    (halive : isDeath result = false) (hfull : result ≠ .error .cancelled) :
    Evaluation.ofRun slot result = .answered (result.mapError .trouble) := by
  unfold ofRun
  split
  · cases halive
  · exact absurd rfl hfull
  · rfl

/-- What a job comes to by itself, in a slot of a pool whose interpreter it has for itself. -/
def alone (i : Interpreter) (slot : Nat) (request : EvalRequest) : Evaluation :=
  .ofRun slot (i.run none request.script request.context).1

/-- Whether a caller was told of nothing but the death of its worker. -/
def isLoss : Except EvalError Outcome → Bool
  | .error (.stopped _) => true
  | .error (.gone _) => true
  | _ => false

/-- An answer is the one of a run on the interpreter, and of a full run unless the caller gave
up. -/
def Job.Fair (i : Interpreter) (job : Job) : Prop :=
  ∀ outcome, job.reply = .answered outcome → isDeath outcome = false ∧
    ∃ cancelAt, outcome = (i.run cancelAt job.request.script job.request.context).1 ∧
      (cancelAt.isSome = true → job.cancelled = true)

/-- No job leaves anything behind that another one could notice. -/
structure Isolated (i : Interpreter) (p : Pool) : Prop where
  fresh : p.fresh = i
  /-- Every worker would run the next job on the same interpreter. -/
  workers : ∀ (w : Nat) (k : Worker), p.workers[w]? = some k → k.interpreter = i
  jobs : ∀ (j : Nat) (job : Job), p.jobs[j]? = some job → job.Fair i
  /-- A job that a handle waits for was not given up on. -/
  awaited : ∀ e ∈ p.handles, ∀ j, e.2.job? = some j →
    ∃ job, p.jobs[j]? = some job ∧ job.cancelled = false
  /-- No two handles wait for one job. -/
  unshared : ∀ e ∈ p.handles, ∀ d ∈ p.handles, ∀ j, e.2.job? = some j → d.2.job? = some j →
    e.1 = d.1
  /-- A caller is told what the interpreter makes of its job, or that the worker is lost. -/
  answers : ∀ a ∈ p.answers, ∃ job, p.jobs[a.job]? = some job ∧
    (isLoss a.outcome = true ∨ ∀ slot, alone i slot job.request = .answered a.outcome)

variable {p q : Pool} {i : Interpreter}

/-- A handle that holds something else, or one of the others. -/
theorem mem_hold {h : Nat} {c : Holding} {e : Nat × Holding} (he : e ∈ (p.hold h c).handles) :
    e = (h, c) ∨ (e ∈ p.handles ∧ e.1 ≠ h) := by
  obtain ⟨d, hd, rfl⟩ := List.mem_map.mp he
  by_cases hh : d.1 = h
  · exact Or.inl (if_pos hh)
  · rw [if_neg hh]
    exact Or.inr ⟨hd, hh⟩

theorem fair_of_not_answered {job : Job} (h : ∀ outcome, job.reply ≠ .answered outcome) :
    job.Fair i :=
  fun outcome ho => absurd ho (h outcome)

namespace Isolated

/-! ### Changes of one field -/

/-- Handles may come, go and change, as long as none begins to wait for a job. -/
theorem of_handles (c : Isolated i p) (hfresh : q.fresh = p.fresh)
    (hworkers : q.workers = p.workers) (hjobs : q.jobs = p.jobs) (hanswers : q.answers = p.answers)
    (hsub : ∀ e ∈ q.handles, e.2.job?.isSome = true → e ∈ p.handles) : Isolated i q where
  fresh := hfresh.trans c.fresh
  workers := by rw [hworkers]; exact c.workers
  jobs := by rw [hjobs]; exact c.jobs
  awaited := fun e he j hj => by
    rw [hjobs]
    exact c.awaited e (hsub e he (by rw [hj]; rfl)) j hj
  unshared := fun e he d hd j hej hdj =>
    c.unshared e (hsub e he (by rw [hej]; rfl)) d (hsub d hd (by rw [hdj]; rfl)) j hej hdj
  answers := by rw [hanswers, hjobs]; exact c.answers

theorem hold (c : Isolated i p) (h : Nat) {new : Holding} (hnew : new.job? = none) :
    Isolated i (p.hold h new) :=
  c.of_handles rfl rfl rfl rfl fun e he hsome => by
    rcases mem_hold he with rfl | ⟨hmem, -⟩
    · rw [hnew] at hsome
      cases hsome
    · exact hmem

/-- A handle may begin to wait for a job that nobody else waits for. -/
theorem holdRunning (c : Isolated i p) (h : Nat) (slot : Slot) {j : Nat}
    (hjob : ∃ job, p.jobs[j]? = some job ∧ job.cancelled = false)
    (hnone : ∀ e ∈ p.handles, e.2.job? ≠ some j) :
    Isolated i (p.hold h (.held slot (.running j))) where
  fresh := c.fresh
  workers := c.workers
  jobs := c.jobs
  awaited := fun e he k hk => by
    rcases mem_hold he with rfl | ⟨hmem, -⟩
    · cases hk
      exact hjob
    · exact c.awaited e hmem k hk
  unshared := fun e he d hd k hek hdk => by
    rcases mem_hold he with rfl | ⟨hemem, -⟩ <;> rcases mem_hold hd with rfl | ⟨hdmem, -⟩
    · rfl
    · cases hek
      exact absurd hdk (hnone d hdmem)
    · cases hdk
      exact absurd hek (hnone e hemem)
    · exact c.unshared e hemem d hdmem k hek hdk
  answers := c.answers

theorem modifyWorker (c : Isolated i p) (w : Nat) {f : Worker → Worker}
    (hf : ∀ k, p.workers[w]? = some k → (f k).interpreter = i) :
    Isolated i (p.modifyWorker w f) where
  fresh := c.fresh
  workers := fun v k hk => by
    have hk : (p.workers.modify w f)[v]? = some k := hk
    rw [Array.getElem?_modify] at hk
    split at hk
    · case isTrue heq =>
      obtain ⟨old, hold, rfl⟩ := Option.map_eq_some_iff.mp hk
      exact hf old (heq ▸ hold)
    · exact c.workers v k hk
  jobs := c.jobs
  awaited := c.awaited
  unshared := c.unshared
  answers := c.answers

theorem pushWorker (c : Isolated i p) : Isolated i { p with
    workers := p.workers.push (Worker.new p.fresh) } where
  fresh := c.fresh
  workers := fun v k hk => by
    have hk : (p.workers.push (Worker.new p.fresh))[v]? = some k := hk
    rw [Array.getElem?_push] at hk
    split at hk
    · cases hk
      exact c.fresh
    · exact c.workers v k hk
  jobs := c.jobs
  awaited := c.awaited
  unshared := c.unshared
  answers := c.answers

/-- A job may change, as long as it asks for the same, its answer stays fair, and it is not
given up on while a handle waits for it. -/
theorem modifyJob (c : Isolated i p) (j : Nat) {f : Job → Job}
    (hrequest : ∀ job, (f job).request = job.request)
    (hfair : ∀ job, p.jobs[j]? = some job → (f job).Fair i)
    (hcancelled : ∀ job, (f job).cancelled = job.cancelled ∨ ∀ e ∈ p.handles, e.2.job? ≠ some j) :
    Isolated i (p.modifyJob j f) where
  fresh := c.fresh
  workers := c.workers
  jobs := fun k job hk => by
    have hk : (p.jobs.modify j f)[k]? = some job := hk
    rw [Array.getElem?_modify] at hk
    split at hk
    · case isTrue heq =>
      obtain ⟨old, hold, rfl⟩ := Option.map_eq_some_iff.mp hk
      exact hfair old (heq ▸ hold)
    · exact c.jobs k job hk
  awaited := fun e he k hk => by
    obtain ⟨job, hjob, hlive⟩ := c.awaited e he k hk
    show ∃ job, (p.jobs.modify j f)[k]? = some job ∧ _
    rw [Array.getElem?_modify, hjob]
    split
    · case isTrue heq =>
      refine ⟨f job, rfl, ?_⟩
      rcases hcancelled job with hsame | hnone
      · rw [hsame]
        exact hlive
      · exact absurd (heq ▸ hk) (hnone e he)
    · exact ⟨job, rfl, hlive⟩
  unshared := c.unshared
  answers := fun a ha => by
    obtain ⟨job, hjob, htold⟩ := c.answers a ha
    show ∃ job, (p.jobs.modify j f)[a.job]? = some job ∧ _
    rw [Array.getElem?_modify, hjob]
    split
    · refine ⟨f job, rfl, ?_⟩
      rw [hrequest]
      exact htold
    · exact ⟨job, rfl, htold⟩

theorem pushJob (c : Isolated i p) (job : Job) (hnew : ∀ outcome, job.reply ≠ .answered outcome) :
    Isolated i { p with jobs := p.jobs.push job } where
  fresh := c.fresh
  workers := c.workers
  jobs := fun k old hk => by
    have hk : (p.jobs.push job)[k]? = some old := hk
    rw [Array.getElem?_push] at hk
    split at hk
    · cases hk
      exact fair_of_not_answered hnew
    · exact c.jobs k old hk
  awaited := fun e he k hk => by
    obtain ⟨old, hold, hlive⟩ := c.awaited e he k hk
    exact ⟨old, getElem?_push_of_some _ hold, hlive⟩
  unshared := c.unshared
  answers := fun a ha => by
    obtain ⟨old, hold, htold⟩ := c.answers a ha
    exact ⟨old, getElem?_push_of_some _ hold, htold⟩

theorem answer (c : Isolated i p) {a : Answer} (ha : ∃ job, p.jobs[a.job]? = some job ∧
    (isLoss a.outcome = true ∨ ∀ slot, alone i slot job.request = .answered a.outcome)) :
    Isolated i { p with answers := a :: p.answers } where
  fresh := c.fresh
  workers := c.workers
  jobs := c.jobs
  awaited := c.awaited
  unshared := c.unshared
  answers := fun b hb => by
    rcases List.mem_cons.mp hb with rfl | hold
    · exact ha
    · exact c.answers b hold

/-! ### Steps -/

theorem send (c : Isolated i p) {h : Nat} {request : EvalRequest}
    (hs : p.send h request = some q) : Isolated i q := by
  obtain ⟨slot, w, -, hw, ⟨-, rfl⟩ | ⟨-, rfl⟩⟩ := send_cases hs
  · have hpushed := c.pushJob ⟨request, false, .closed⟩ fun _ hr => by cases hr
    exact (hpushed.answer (a := ⟨p.jobs.size, .error (.gone slot.id)⟩)
      ⟨_, Array.getElem?_push_size, Or.inl rfl⟩).hold h rfl
  · have hpushed := c.pushJob ⟨request, false, .waiting⟩ fun _ hr => by cases hr
    refine (hpushed.modifyWorker slot.worker fun k hk => ?_).holdRunning h slot ?_ ?_
    · exact c.workers _ k hk
    · exact ⟨_, Array.getElem?_push_size, rfl⟩
    · -- the job is new, and who waits for a job waits for one that is there
      intro e he hwaits
      obtain ⟨job, hjob, -⟩ := c.awaited e he _ hwaits
      rw [Array.getElem?_eq_none (Nat.le_refl _)] at hjob
      cases hjob

theorem closeJob (c : Isolated i p) (j : Nat) :
    Isolated i (p.modifyJob j fun job => { job with reply := .closed }) :=
  c.modifyJob j (fun _ => rfl) (fun _ _ => fair_of_not_answered fun _ hr => by cases hr)
    fun _ => Or.inl rfl

theorem closeJobs (queue : List Nat) :
    ∀ {p : Pool}, Isolated i p → Isolated i { p with jobs := closed queue p.jobs } := by
  induction queue with
  | nil => exact fun c => c
  | cons j rest ih => exact fun c => ih (c.closeJob j)

/-- A worker answers with the run of its job on its interpreter, which is left as it was. -/
theorem finish (c : Isolated i p) {w : Nat} {cancelAt : Option Nat}
    (hs : p.finish w cancelAt = some q) : Isolated i q := by
  obtain ⟨own, queue, j, job, hw, hjob, halive, hstopped, rfl⟩ := finish_cases hs
  obtain rfl : own = i := c.workers w _ hw
  unfold Pool.reply
  refine (c.modifyJob j ?_ (fun old hold => ?_) fun _ => Or.inl ?_).modifyWorker w fun _ _ => ?_
  · exact fun _ => rfl
  · intro outcome houtcome
    obtain rfl : job = old := Option.some.inj (hjob.symm.trans hold)
    cases houtcome
    exact ⟨halive, cancelAt, rfl, hstopped⟩
  · rfl
  · exact own.run_snd cancelAt _ _

/-- Nobody waits for a job that was given up on, so what is received is what a full run gives. -/
theorem receive (c : Isolated i p) {h : Nat} (hs : p.receive h = some q) : Isolated i q := by
  obtain ⟨slot, j, job, hh, hjob, hq⟩ := receive_cases hs
  have halone : ∀ outcome, job.reply = .answered outcome →
      ∀ slot, alone i slot job.request = .answered (outcome.mapError .trouble) := by
    intro outcome houtcome slot
    obtain ⟨halive, cancelAt, rfl, hstopped⟩ := c.jobs j job hjob outcome houtcome
    obtain ⟨awaited, hawaited, hlive⟩ := c.awaited _ (mem_of_holding hh) j rfl
    obtain rfl : awaited = job := Option.some.inj (hawaited.symm.trans hjob)
    cases cancelAt with
    | none => exact Evaluation.ofRun_eq slot halive (i.run_none_ne_cancelled _ _)
    | some n =>
        rw [hstopped rfl] at hlive
        cases hlive
  rcases hq with ⟨o, hreply, rfl⟩ | ⟨t, hreply, rfl⟩ | ⟨-, rfl⟩
  · exact (c.answer ⟨job, hjob, Or.inr (halone _ hreply)⟩).hold h rfl
  · exact (c.answer ⟨job, hjob, Or.inr (halone _ hreply)⟩).hold h rfl
  · exact (c.answer ⟨job, hjob, Or.inl rfl⟩).hold h rfl

theorem dropHandle (c : Isolated i p) {h : Nat} (hs : p.dropHandle h = some q) :
    Isolated i q := by
  obtain ⟨slot, state, hh, ⟨-, rfl⟩ | ⟨j, rfl, rfl⟩ | ⟨-, rfl⟩⟩ := dropHandle_cases hs
  · exact (c.hold h rfl).of_handles rfl rfl rfl rfl fun e he _ => he
  · -- the handle stops waiting for the job, and no other one does, before it is given up on
    have hdropped : Isolated i (({ p with free := slot :: p.free } : Pool).hold h .dropped) :=
      (c.hold h rfl).of_handles rfl rfl rfl rfl fun e he _ => he
    refine hdropped.modifyJob j (f := fun job => { job with cancelled := true }) (fun _ => rfl)
      (fun job hjob => ?_) fun _ => Or.inr ?_
    · intro outcome houtcome
      obtain ⟨halive, cancelAt, hrun, -⟩ := c.jobs j job hjob outcome houtcome
      exact ⟨halive, cancelAt, hrun, fun _ => rfl⟩
    · intro e he hwaits
      rcases mem_hold he with rfl | ⟨hmem, hne⟩
      · cases hwaits
      · exact hne (c.unshared e hmem _ (mem_of_holding hh) j hwaits rfl)
  · exact (c.pushWorker.hold h rfl).of_handles rfl rfl rfl rfl fun e he _ => he

theorem step? (c : Isolated i p) {e : Event} (hs : p.step? e = some q) : Isolated i q := by
  cases e with
  | takePermit =>
      obtain ⟨-, rfl⟩ := takePermit_cases hs
      refine c.of_handles rfl rfl rfl rfl fun e he hsome => ?_
      rcases List.mem_cons.mp he with rfl | hmem
      · cases hsome
      · exact hmem
  | popSlot h =>
      obtain ⟨-, ⟨slot, rest, -, rfl⟩ | ⟨-, rfl⟩⟩ := popSlot_cases hs
      · exact (c.hold h rfl).of_handles rfl rfl rfl rfl fun e he _ => he
      · exact c.hold h rfl
  | send h request => exact c.send hs
  | start w =>
      obtain ⟨_, _, _, _, rfl⟩ := start_cases hs
      exact c.modifyWorker w fun k hk => c.workers w k hk
  | finish w cancelAt => exact c.finish hs
  | die w =>
      obtain ⟨_, _, j, _, rfl⟩ := die_cases hs
      exact (c.closeJob j).modifyWorker w fun k hk => c.workers w k hk
  | uncount w =>
      obtain ⟨_, _, _, rfl⟩ := uncount_cases hs
      exact (c.of_handles (q := { p with live := p.live - 1 }) rfl rfl rfl rfl
        fun e he _ => he).modifyWorker w fun k hk => c.workers w k hk
  | closeQueue w =>
      obtain ⟨_, queue, _, _, rfl⟩ := closeQueue_cases hs
      exact (closeJobs queue c).modifyWorker w fun k hk => c.workers w k hk
  | receive h => exact c.receive hs
  | dropHandle h => exact c.dropHandle hs
  | returnPermit h =>
      obtain ⟨-, rfl⟩ := returnPermit_cases hs
      exact c.of_handles rfl rfl rfl rfl fun e he _ => (List.mem_filter.mp he).1

end Isolated

/-! ### Every reachable state -/

theorem isolated_new (size : Nat) (i : Interpreter) : Isolated i (new size i) where
  fresh := rfl
  workers := fun w k hk => by
    have hk : (Array.replicate size (Worker.new i))[w]? = some k := hk
    rw [Array.getElem?_replicate] at hk
    split at hk
    · cases hk
      rfl
    · cases hk
  jobs := fun j job hj => by cases hj
  awaited := fun e he => by cases he
  unshared := fun e he => by cases he
  answers := fun a ha => by cases ha

/-- **No job notices another one.**  Every state that steps lead to from a new pool is one in
which all interpreters are as they were at the start, and every caller was told what that
interpreter makes of its job, or that its worker is lost. -/
theorem isolated_of_steps? {size : Nat} {es : List Event} (hs : (new size i).steps? es = some p) :
    Isolated i p :=
  steps?_induct (fun _ _ _ hc hstep => hc.step? hstep) es (isolated_new size i) hs

end Lookout.Pool
