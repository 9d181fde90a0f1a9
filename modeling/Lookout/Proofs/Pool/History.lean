/-
What happens to jobs in the course of a run, in the order in which it happens.

A state of a pool does not tell what was done before: a caller that left leaves no trace but the
flag of its job, and a job that was run is like one that never was.  So the history of a run is
written down beside it.  Each step adds what it does to jobs: one is sent by a handle, begun or
answered by a worker, or done with for its caller, who is told the outcome, learns that the worker
is lost, or gives up.

What the history says and what the state shows belong together.  The lemmas at the end say it for
one step, starting from the state behind it: whatever is different there about a job, a handle or a
worker was written down.
-/
import Lookout.Proofs.Pool.Isolation

namespace Lookout.Pool

open Script (Interpreter Outcome Trouble)

/-- Something that happens to a job.  A job is sent once, so its number stands for the evaluation
that it was sent for. -/
inductive Deed where
  | sent (handle job : Nat) (request : EvalRequest)
  /-- A worker takes the job from its queue. -/
  | begun (job : Nat)
  /-- A worker is through with the job. -/
  | answered (job : Nat) (outcome : Except Trouble Outcome)
  /-- The caller receives the reply to its job. -/
  | told (handle job : Nat) (outcome : Except Trouble Outcome)
  /-- The caller learns that there will be no reply. -/
  | lost (handle job : Nat) (e : EvalError)
  /-- The caller goes without having received anything. -/
  | abandoned (handle job : Nat)

namespace Deed

/-- Whether a job is sent. -/
def sends (j : Nat) : Deed → Bool
  | sent _ k _ => k == j
  | _ => false

/-- Whether a job is begun. -/
def begins (j : Nat) : Deed → Bool
  | begun k => k == j
  | _ => false

/-- Whether a job is answered. -/
def answers (j : Nat) : Deed → Bool
  | answered k _ => k == j
  | _ => false

/-- Whether the caller of a job is done with it. -/
def settles (j : Nat) : Deed → Bool
  | told _ k _ => k == j
  | lost _ k _ => k == j
  | abandoned _ k => k == j
  | _ => false

/-- What a caller is told. -/
def answer? : Deed → Option Answer
  | told _ j outcome => some ⟨j, outcome.mapError .trouble⟩
  | lost _ j e => some ⟨j, .error e⟩
  | _ => none

end Deed

/-- A job sent to a worker that is gone is lost at once. -/
def sendDeeds (h : Nat) (request : EvalRequest) (p : Pool) : List Deed :=
  match p.holding? h with
  | some (.held slot _) =>
    .sent h p.jobs.size request ::
      if (p.workers[slot.worker]?).any (·.phase = .gone) then
        [.lost h p.jobs.size (.gone slot.id)]
      else []
  | _ => []

/-- The next job of a worker is begun. -/
def startDeeds (w : Nat) (p : Pool) : List Deed :=
  match (p.workers[w]?).map Worker.queue with
  | some (j :: _) => [.begun j]
  | _ => []

/-- The job of a worker is answered with what its run came to. -/
def finishDeeds (w : Nat) (cancelAt : Option Nat) (p : Pool) : List Deed :=
  match p.runOf w cancelAt with
  | some (j, result) => [.answered j result.1]
  | none => []

/-- What a caller with a slot learns about its job. -/
def Reply.deeds (h slot j : Nat) : Reply → List Deed
  | waiting => []
  | answered outcome => [.told h j outcome]
  | closed => [.lost h j (.stopped slot)]

/-- A caller learns what became of the job it waits for. -/
def receiveDeeds (h : Nat) (p : Pool) : List Deed :=
  match p.holding? h with
  | some (.held slot (.running j)) =>
    match p.jobs[j]? with
    | some job => job.reply.deeds h slot.id j
    | none => []
  | _ => []

/-- What a caller gives up when it goes. -/
def SlotState.deeds (h : Nat) : SlotState → List Deed
  | running j => [.abandoned h j]
  | _ => []

/-- A caller goes. -/
def dropDeeds (h : Nat) (p : Pool) : List Deed :=
  match p.holding? h with
  | some (.held _ state) => state.deeds h
  | _ => []

/-- What a step does to jobs. -/
def deeds (p : Pool) : Event → List Deed
  | .send h request => p.sendDeeds h request
  | .start w => p.startDeeds w
  | .finish w cancelAt => p.finishDeeds w cancelAt
  | .receive h => p.receiveDeeds h
  | .dropHandle h => p.dropDeeds h
  | _ => []

/-- What a run does to jobs. -/
def history (p : Pool) : List Event → List Deed
  | [] => []
  | e :: es =>
    match p.step? e with
    | some q => p.deeds e ++ q.history es
    | none => []

variable {p q : Pool} {e : Event}

theorem history_cons {es : List Event} (hs : p.step? e = some q) :
    p.history (e :: es) = p.deeds e ++ q.history es := by
  rw [history, hs]

/-! ### What is written down in a step -/

theorem sendDeeds_eq {h : Nat} {request : EvalRequest} {slot : Slot} {k : Worker}
    (hh : p.holding? h = some (.held slot .idle)) (hk : p.workers[slot.worker]? = some k) :
    p.sendDeeds h request = .sent h p.jobs.size request ::
      if k.phase = .gone then [.lost h p.jobs.size (.gone slot.id)] else [] := by
  unfold sendDeeds
  rw [hh]
  dsimp only
  rw [hk]
  simp only [Option.any_some, decide_eq_true_eq]

theorem startDeeds_eq {w j : Nat} {own : Interpreter} {queue : List Nat}
    (hk : p.workers[w]? = some ⟨own, j :: queue, none, .working⟩) :
    p.startDeeds w = [.begun j] := by
  unfold startDeeds
  rw [hk]
  rfl

theorem finishDeeds_eq {w j : Nat} {cancelAt : Option Nat} {own : Interpreter} {queue : List Nat}
    {job : Job} (hk : p.workers[w]? = some ⟨own, queue, some j, .working⟩)
    (hj : p.jobs[j]? = some job) : p.finishDeeds w cancelAt
      = [.answered j (own.run cancelAt job.request.script job.request.context).1] := by
  unfold finishDeeds runOf
  rw [hk]
  dsimp only
  rw [hj]
  rfl

theorem receiveDeeds_eq {h j : Nat} {slot : Slot} {job : Job}
    (hh : p.holding? h = some (.held slot (.running j))) (hj : p.jobs[j]? = some job) :
    p.receiveDeeds h = job.reply.deeds h slot.id j := by
  unfold receiveDeeds
  rw [hh]
  dsimp only
  rw [hj]

theorem dropDeeds_eq {h : Nat} {slot : Slot} {state : SlotState}
    (hh : p.holding? h = some (.held slot state)) : p.dropDeeds h = state.deeds h := by
  unfold dropDeeds
  rw [hh]

/-- Which steps write down what. -/
theorem mem_deeds {d : Deed} (hd : d ∈ p.deeds e) :
    (∃ h request, e = .send h request ∧
      (d = .sent h p.jobs.size request ∨ ∃ e, d = .lost h p.jobs.size e)) ∨
    (∃ w j, e = .start w ∧ d = .begun j) ∨
    (∃ w cancelAt j outcome, e = .finish w cancelAt ∧ d = .answered j outcome) ∨
    (∃ h slot j job, e = .receive h ∧ p.holding? h = some (.held slot (.running j)) ∧
      p.jobs[j]? = some job ∧ d ∈ job.reply.deeds h slot.id j) ∨
    (∃ h slot j, e = .dropHandle h ∧ p.holding? h = some (.held slot (.running j)) ∧
      d = .abandoned h j) := by
  cases e with
  | send h request =>
      refine Or.inl ⟨h, request, rfl, ?_⟩
      change d ∈ p.sendDeeds h request at hd
      unfold sendDeeds at hd
      split at hd
      · rcases List.mem_cons.mp hd with rfl | hd
        · exact Or.inl rfl
        · split at hd
          · exact Or.inr ⟨_, List.mem_singleton.mp hd⟩
          · cases hd
      · cases hd
  | start w =>
      refine Or.inr (Or.inl ?_)
      change d ∈ p.startDeeds w at hd
      unfold startDeeds at hd
      split at hd
      · exact ⟨w, _, rfl, List.mem_singleton.mp hd⟩
      · cases hd
  | finish w cancelAt =>
      refine Or.inr (Or.inr (Or.inl ?_))
      change d ∈ p.finishDeeds w cancelAt at hd
      unfold finishDeeds at hd
      split at hd
      · exact ⟨w, cancelAt, _, _, rfl, List.mem_singleton.mp hd⟩
      · cases hd
  | receive h =>
      refine Or.inr (Or.inr (Or.inr (Or.inl ?_)))
      change d ∈ p.receiveDeeds h at hd
      unfold receiveDeeds at hd
      split at hd
      · case _ slot j hh =>
        split at hd
        · case _ job hjob => exact ⟨h, slot, j, job, rfl, hh, hjob, hd⟩
        · cases hd
      · cases hd
  | dropHandle h =>
      refine Or.inr (Or.inr (Or.inr (Or.inr ?_)))
      change d ∈ p.dropDeeds h at hd
      unfold dropDeeds at hd
      split at hd
      · case _ slot state hh =>
        cases state with
        | running j => exact ⟨h, slot, j, rfl, hh, List.mem_singleton.mp hd⟩
        | idle => cases hd
        | dead => cases hd
      · cases hd
  | _ => cases hd

/-- Who is told something waited for the job, and is told what it was answered with. -/
theorem told_mem_deeds {h j : Nat} {outcome : Except Trouble Outcome}
    (hd : .told h j outcome ∈ p.deeds e) : ∃ slot job,
      p.holding? h = some (.held slot (.running j)) ∧ p.jobs[j]? = some job ∧
        job.reply = .answered outcome := by
  rcases mem_deeds hd with ⟨_, _, _, heq | ⟨_, heq⟩⟩ | ⟨_, _, _, heq⟩ | ⟨_, _, _, _, _, heq⟩ |
    ⟨k, slot, l, job, -, hh, hjob, hmem⟩ | ⟨_, _, _, _, _, heq⟩
  · cases heq
  · cases heq
  · cases heq
  · cases heq
  · unfold Reply.deeds at hmem
    split at hmem
    · cases hmem
    · case _ hreply =>
      cases List.mem_singleton.mp hmem
      exact ⟨slot, job, hh, hjob, hreply⟩
    · cases List.mem_singleton.mp hmem
  · cases heq

/-- Who gives up drops its handle while it waits. -/
theorem abandoned_mem_deeds {h j : Nat} (hd : .abandoned h j ∈ p.deeds e) :
    e = .dropHandle h ∧ ∃ slot, p.holding? h = some (.held slot (.running j)) := by
  rcases mem_deeds hd with ⟨_, _, _, heq | ⟨_, heq⟩⟩ | ⟨_, _, _, heq⟩ | ⟨_, _, _, _, _, heq⟩ |
    ⟨k, slot, l, job, -, hh, hjob, hmem⟩ | ⟨k, slot, l, he, hh, heq⟩
  · cases heq
  · cases heq
  · cases heq
  · cases heq
  · unfold Reply.deeds at hmem
    split at hmem
    · cases hmem
    · cases List.mem_singleton.mp hmem
    · cases List.mem_singleton.mp hmem
  · cases heq
    exact ⟨he, slot, hh⟩

/-! ### What a step changes was written down -/

/-- What a job that was there becomes in a step. -/
structure Job.Becomes (p : Pool) (e : Event) (j : Nat) (job later : Job) : Prop where
  request : later.request = job.request
  /-- Its flag is set when its caller gives up, and then only. -/
  cancelled : later.cancelled = true ↔ job.cancelled = true ∨ ∃ h, .abandoned h j ∈ p.deeds e
  /-- Its answer is the one that it is given. -/
  reply : ∀ outcome, later.reply = .answered outcome →
    job.reply = .answered outcome ∨ .answered j outcome ∈ p.deeds e

/-- A job that comes in a step is one that was sent. -/
structure Job.Comes (p : Pool) (e : Event) (j : Nat) (job : Job) : Prop where
  number : j = p.jobs.size
  sent : ∃ h, .sent h j job.request ∈ p.deeds e
  cancelled : job.cancelled = false
  reply : ∀ outcome, job.reply ≠ .answered outcome

theorem abandoned_not_mem {h j : Nat} (he : ∀ k, e ≠ .dropHandle k) :
    .abandoned h j ∉ p.deeds e :=
  fun hd => he h (abandoned_mem_deeds hd).1

variable {j : Nat} {job later : Job}

/-- A job whose flag and request are left alone, and that is answered as is written down. -/
theorem Job.Becomes.of_reply (he : ∀ h, .abandoned h j ∉ p.deeds e)
    (hrequest : later.request = job.request) (hcancelled : later.cancelled = job.cancelled)
    (hreply : ∀ outcome, later.reply = .answered outcome →
      job.reply = .answered outcome ∨ .answered j outcome ∈ p.deeds e) :
    job.Becomes p e j later where
  request := hrequest
  cancelled := by
    rw [hcancelled]
    exact ⟨Or.inl, fun h => h.elim id fun ⟨h, hd⟩ => absurd hd (he h)⟩
  reply := hreply

theorem becomes_of_eq (he : ∀ h, .abandoned h j ∉ p.deeds e) (hjobs : q.jobs = p.jobs)
    (hj : q.jobs[j]? = some later) : ∃ job, p.jobs[j]? = some job ∧ job.Becomes p e j later := by
  rw [hjobs] at hj
  exact ⟨later, hj, .of_reply he rfl rfl fun _ => Or.inl⟩

/-- One of the jobs gets a reply. -/
theorem becomes_of_modify {k : Nat} {f : Job → Job} (he : ∀ h, .abandoned h j ∉ p.deeds e)
    (hjobs : q.jobs = p.jobs.modify k f) (hf : ∀ job, (f job).request = job.request ∧
      (f job).cancelled = job.cancelled)
    (hreply : ∀ job outcome, (f job).reply = .answered outcome → .answered k outcome ∈ p.deeds e)
    (hj : q.jobs[j]? = some later) : ∃ job, p.jobs[j]? = some job ∧ job.Becomes p e j later := by
  rw [hjobs, Array.getElem?_modify] at hj
  split at hj
  · case isTrue heq =>
    subst heq
    obtain ⟨job, hjob, rfl⟩ := Option.map_eq_some_iff.mp hj
    exact ⟨job, hjob, .of_reply he (hf job).1 (hf job).2 fun o ho => Or.inr (hreply job o ho)⟩
  · exact ⟨later, hj, .of_reply he rfl rfl fun _ => Or.inl⟩

/-- One more job is sent. -/
theorem comes_of_push {h : Nat} {request : EvalRequest} (reply : Reply)
    (he : ∀ h, .abandoned h j ∉ p.deeds e) (hsent : .sent h p.jobs.size request ∈ p.deeds e)
    (hreply : ∀ outcome, reply ≠ .answered outcome)
    (hjobs : q.jobs = p.jobs.push ⟨request, false, reply⟩) (hj : q.jobs[j]? = some later) :
    (∃ job, p.jobs[j]? = some job ∧ job.Becomes p e j later) ∨ later.Comes p e j := by
  rw [hjobs, Array.getElem?_push] at hj
  split at hj
  · case isTrue hnew =>
    cases hj
    exact Or.inr ⟨hnew, ⟨h, hnew ▸ hsent⟩, rfl, hreply⟩
  · exact Or.inl ⟨later, hj, .of_reply he rfl rfl fun _ => Or.inl⟩

/-- A job in a queue that is let go of changes nothing but its reply. -/
theorem getElem?_closed (queue : List Nat) : ∀ {jobs : Array Job},
    (closed queue jobs)[j]? = some later → ∃ job, jobs[j]? = some job ∧
      (later = job ∨ later = { job with reply := .closed }) := by
  induction queue with
  | nil => exact fun hj => ⟨later, hj, Or.inl rfl⟩
  | cons k rest ih =>
      intro jobs hj
      obtain ⟨mid, hmid, hlater⟩ := ih hj
      rw [Array.getElem?_modify] at hmid
      split at hmid
      · obtain ⟨job, hjob, rfl⟩ := Option.map_eq_some_iff.mp hmid
        exact ⟨job, hjob, Or.inr (hlater.elim id id)⟩
      · exact ⟨mid, hmid, hlater⟩

/-- **A step changes of a job what it writes down**, and a job that is new in it was sent. -/
theorem job_step? (hs : p.step? e = some q) (hj : q.jobs[j]? = some later) :
    (∃ job, p.jobs[j]? = some job ∧ job.Becomes p e j later) ∨ later.Comes p e j := by
  cases e with
  | send h request =>
      obtain ⟨slot, k, hh, hk, hq⟩ := send_cases hs
      have hsent : .sent h p.jobs.size request ∈ p.deeds (.send h request) := by
        show _ ∈ p.sendDeeds h request
        rw [sendDeeds_eq hh hk]
        exact List.mem_cons_self
      have hnone : ∀ g, .abandoned g j ∉ p.deeds (.send h request) :=
        fun _ => abandoned_not_mem fun _ heq => by cases heq
      rcases hq with ⟨-, rfl⟩ | ⟨-, rfl⟩
      · exact comes_of_push .closed hnone hsent (fun _ heq => by cases heq) rfl hj
      · exact comes_of_push .waiting hnone hsent (fun _ heq => by cases heq) rfl hj
  | dropHandle h =>
      obtain ⟨slot, state, hh, hq⟩ := dropHandle_cases hs
      have hdeeds : p.deeds (.dropHandle h) = state.deeds h := dropDeeds_eq hh
      rcases hq with ⟨rfl, rfl⟩ | ⟨k, rfl, rfl⟩ | ⟨rfl, rfl⟩
      · exact Or.inl (becomes_of_eq (fun g hd => by rw [hdeeds] at hd; cases hd) rfl hj)
      · refine Or.inl ?_
        replace hj : (p.jobs.modify k fun job => { job with cancelled := true })[j]? = some later :=
          hj
        rw [Array.getElem?_modify] at hj
        split at hj
        · case isTrue heq =>
          subst heq
          obtain ⟨job, hjob, rfl⟩ := Option.map_eq_some_iff.mp hj
          refine ⟨job, hjob, rfl, ⟨fun _ => Or.inr ⟨h, ?_⟩, fun _ => rfl⟩, fun _ => Or.inl⟩
          rw [hdeeds]
          exact List.mem_singleton.mpr rfl
        · case isFalse hne =>
          refine ⟨later, hj, .of_reply (fun g hd => ?_) rfl rfl fun _ => Or.inl⟩
          rw [hdeeds] at hd
          cases List.mem_singleton.mp hd
          exact hne rfl
      · exact Or.inl (becomes_of_eq (fun g hd => by rw [hdeeds] at hd; cases hd) rfl hj)
  | finish w cancelAt =>
      obtain ⟨own, queue, k, job, hw, hk, -, -, rfl⟩ := finish_cases hs
      refine Or.inl (becomes_of_modify (fun _ => abandoned_not_mem fun _ heq => by cases heq)
        (f := fun old => { old with
          reply := .answered (own.run cancelAt job.request.script job.request.context).1 })
        rfl (fun _ => ⟨rfl, rfl⟩) (fun old outcome houtcome => ?_) hj)
      cases houtcome
      show _ ∈ p.finishDeeds w cancelAt
      rw [finishDeeds_eq hw hk]
      exact List.mem_singleton.mpr rfl
  | die w =>
      obtain ⟨_, _, k, _, rfl⟩ := die_cases hs
      exact Or.inl (becomes_of_modify (fun _ => abandoned_not_mem fun _ heq => by cases heq)
        (f := fun job => { job with reply := .closed }) rfl (fun _ => ⟨rfl, rfl⟩)
        (fun _ _ houtcome => by cases houtcome) hj)
  | closeQueue w =>
      obtain ⟨_, queue, _, _, rfl⟩ := closeQueue_cases hs
      obtain ⟨job, hjob, hlater⟩ := getElem?_closed queue hj
      have hnone : ∀ h, .abandoned h j ∉ p.deeds (.closeQueue w) :=
        fun _ => abandoned_not_mem fun _ heq => by cases heq
      rcases hlater with rfl | rfl
      · exact Or.inl ⟨later, hjob, .of_reply hnone rfl rfl fun _ => Or.inl⟩
      · exact Or.inl ⟨job, hjob, .of_reply hnone rfl rfl fun _ houtcome => by cases houtcome⟩
  | takePermit =>
      obtain ⟨-, rfl⟩ := takePermit_cases hs
      exact Or.inl (becomes_of_eq (fun _ hd => by cases hd) rfl hj)
  | popSlot h =>
      obtain ⟨-, ⟨_, _, -, rfl⟩ | ⟨-, rfl⟩⟩ := popSlot_cases hs
      · exact Or.inl (becomes_of_eq (fun _ hd => by cases hd) rfl hj)
      · exact Or.inl (becomes_of_eq (fun _ hd => by cases hd) rfl hj)
  | start w =>
      obtain ⟨_, _, _, _, rfl⟩ := start_cases hs
      exact Or.inl (becomes_of_eq (fun _ => abandoned_not_mem fun _ heq => by cases heq) rfl hj)
  | uncount w =>
      obtain ⟨_, -, -, rfl⟩ := uncount_cases hs
      exact Or.inl (becomes_of_eq (fun _ hd => by cases hd) rfl hj)
  | receive h =>
      have hnone : ∀ g, .abandoned g j ∉ p.deeds (.receive h) :=
        fun _ => abandoned_not_mem fun _ heq => by cases heq
      obtain ⟨_, _, _, -, -, ⟨_, -, rfl⟩ | ⟨_, -, rfl⟩ | ⟨-, rfl⟩⟩ := receive_cases hs
      · exact Or.inl (becomes_of_eq hnone rfl hj)
      · exact Or.inl (becomes_of_eq hnone rfl hj)
      · exact Or.inl (becomes_of_eq hnone rfl hj)
  | returnPermit h =>
      obtain ⟨-, rfl⟩ := returnPermit_cases hs
      exact Or.inl (becomes_of_eq (fun _ hd => by cases hd) rfl hj)

/-- **Callers are told what is written down**, and nothing else. -/
theorem answers_step? (hs : p.step? e = some q) :
    q.answers = ((p.deeds e).filterMap Deed.answer?).reverse ++ p.answers := by
  cases e with
  | send h request =>
      obtain ⟨slot, k, hh, hk, ⟨hgone, rfl⟩ | ⟨hlive, rfl⟩⟩ := send_cases hs
      · show _ = ((p.sendDeeds h request).filterMap _).reverse ++ _
        rw [sendDeeds_eq hh hk, if_pos hgone]
        rfl
      · show _ = ((p.sendDeeds h request).filterMap _).reverse ++ _
        rw [sendDeeds_eq hh hk, if_neg hlive]
        rfl
  | receive h =>
      obtain ⟨slot, k, job, hh, hjob, hq⟩ := receive_cases hs
      show _ = ((p.receiveDeeds h).filterMap _).reverse ++ _
      rw [receiveDeeds_eq hh hjob]
      rcases hq with ⟨o, hreply, rfl⟩ | ⟨t, hreply, rfl⟩ | ⟨hreply, rfl⟩
      · rw [hreply]; rfl
      · rw [hreply]; rfl
      · rw [hreply]; rfl
  | dropHandle h =>
      obtain ⟨slot, state, hh, hq⟩ := dropHandle_cases hs
      show _ = ((p.dropDeeds h).filterMap _).reverse ++ _
      rw [dropDeeds_eq hh]
      rcases hq with ⟨rfl, rfl⟩ | ⟨k, rfl, rfl⟩ | ⟨rfl, rfl⟩
      · rfl
      · rfl
      · rfl
  | start w =>
      obtain ⟨_, _, _, hk, rfl⟩ := start_cases hs
      show _ = ((p.startDeeds w).filterMap _).reverse ++ _
      rw [startDeeds_eq hk]
      rfl
  | finish w cancelAt =>
      obtain ⟨_, _, _, _, hk, hjob, -, -, rfl⟩ := finish_cases hs
      show _ = ((p.finishDeeds w cancelAt).filterMap _).reverse ++ _
      rw [finishDeeds_eq hk hjob]
      rfl
  | takePermit =>
      obtain ⟨-, rfl⟩ := takePermit_cases hs
      rfl
  | popSlot h =>
      obtain ⟨-, ⟨_, _, -, rfl⟩ | ⟨-, rfl⟩⟩ := popSlot_cases hs
      · rfl
      · rfl
  | die w =>
      obtain ⟨_, _, _, -, rfl⟩ := die_cases hs
      rfl
  | uncount w =>
      obtain ⟨_, -, -, rfl⟩ := uncount_cases hs
      rfl
  | closeQueue w =>
      obtain ⟨_, _, _, -, rfl⟩ := closeQueue_cases hs
      rfl
  | returnPermit h =>
      obtain ⟨-, rfl⟩ := returnPermit_cases hs
      rfl

/-- A handle that waits for a job waited for it before, or has just sent it. -/
theorem waits_step? (hs : p.step? e = some q) {d : Nat × Holding} (hd : d ∈ q.handles)
    (hwaits : d.2.job? = some j) :
    d ∈ p.handles ∨ ∃ request, .sent d.1 j request ∈ p.deeds e := by
  -- whoever came to hold something that is not a job was not found waiting
  have hhold : ∀ {r : Pool} {h : Nat} {new : Holding}, new.job? = none → r.handles = p.handles →
      d ∈ (r.hold h new).handles → d ∈ p.handles := by
    intro r h new hnew hr hd
    rcases mem_hold hd with rfl | ⟨hmem, -⟩
    · rw [hnew] at hwaits
      cases hwaits
    · exact hr ▸ hmem
  cases e with
  | send h request =>
      obtain ⟨slot, k, hh, hk, ⟨-, rfl⟩ | ⟨-, rfl⟩⟩ := send_cases hs
      · exact Or.inl (hhold rfl rfl hd)
      · rcases mem_hold hd with rfl | ⟨hmem, -⟩
        · cases hwaits
          refine Or.inr ⟨request, ?_⟩
          show _ ∈ p.sendDeeds h request
          rw [sendDeeds_eq hh hk]
          exact List.mem_cons_self
        · exact Or.inl hmem
  | takePermit =>
      obtain ⟨-, rfl⟩ := takePermit_cases hs
      rcases List.mem_cons.mp hd with rfl | hmem
      · cases hwaits
      · exact Or.inl hmem
  | popSlot h =>
      obtain ⟨-, ⟨_, _, -, rfl⟩ | ⟨-, rfl⟩⟩ := popSlot_cases hs
      · exact Or.inl (hhold rfl rfl hd)
      · exact Or.inl (hhold rfl rfl hd)
  | receive h =>
      obtain ⟨_, _, _, -, -, ⟨_, -, rfl⟩ | ⟨_, -, rfl⟩ | ⟨-, rfl⟩⟩ := receive_cases hs
      · exact Or.inl (hhold rfl rfl hd)
      · exact Or.inl (hhold rfl rfl hd)
      · exact Or.inl (hhold rfl rfl hd)
  | dropHandle h =>
      obtain ⟨_, _, -, ⟨-, rfl⟩ | ⟨_, -, rfl⟩ | ⟨-, rfl⟩⟩ := dropHandle_cases hs
      · exact Or.inl (hhold rfl rfl hd)
      · exact Or.inl (hhold rfl rfl hd)
      · exact Or.inl (hhold rfl rfl hd)
  | returnPermit h =>
      obtain ⟨-, rfl⟩ := returnPermit_cases hs
      exact Or.inl (List.mem_filter.mp hd).1
  | _ =>
      left
      rw [← (step?_sameLedger rfl hs).handles]
      exact hd

end Lookout.Pool
