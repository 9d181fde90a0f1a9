/-
A caller that waits can come to be told.

A caller waits for a job that is with a worker, behind jobs that were given up.  The worker can
always take its next turn: it begins the next job, stops one that nobody waits for, answers or dies
in the one that somebody does, or, once it is dying, lets go of what it has.  Each turn leaves it
less to do, which `Worker.toil` measures, so after some turns of this one worker the job has its
reply; and no turn of anybody else was needed.

If the worker takes jobs, the reply is the one that the job comes to by itself.
-/
import Lookout.Proofs.Pool.Headcount
import Lookout.Proofs.Pool.Losses

namespace Lookout.Pool

open Script (Interpreter Outcome Trouble)

/-- The worker that takes a step. -/
def Event.worker? : Event → Option Nat
  | .start w | .finish w _ | .die w | .uncount w | .closeQueue w => some w
  | _ => none

/-- How many turns a worker that takes jobs still needs for them. -/
def Worker.toil (k : Worker) : Nat :=
  2 * k.queue.length + k.current.toList.length

/-- The reply that a job gets when a run of it is not stopped. -/
def Reply.ofRun (result : Except Trouble Outcome) : Reply :=
  if isDeath result then .closed else .answered result

/-- What a caller is told about a job with a reply. -/
def Reply.told (slot : Nat) : Reply → Except EvalError Outcome
  | .answered outcome => outcome.mapError .trouble
  | _ => .error (.stopped slot)

variable {n : Nat} {i : Interpreter} {p q : Pool} {past : List Deed} {es : List Event}

theorem ofWorker_of_worker? {e : Event} {w : Nat} (he : e.worker? = some w) :
    e.ofWorker = true := by
  cases e with
  | start | finish | die | uncount | closeQueue => rfl
  | _ => cases he

/-- What every turn of a worker keeps is kept by any of its turns. -/
theorem steps?_induct_turns {P : Pool → Prop} {w : Nat}
    (hstep : ∀ p q e, e.worker? = some w → P p → p.step? e = some q → P q) :
    ∀ (es : List Event) {p : Pool}, (∀ e ∈ es, e.worker? = some w) → P p →
      p.steps? es = some q → P q := by
  intro es
  induction es with
  | nil =>
      intro p _ hp hs
      cases hs
      exact hp
  | cons e rest ih =>
      intro p hown hp hs
      rw [steps?_cons] at hs
      obtain ⟨mid, hmid, hrest⟩ := Option.bind_eq_some_iff.mp hs
      exact ih (fun f hf => hown f (List.mem_cons_of_mem _ hf))
        (hstep p mid e (hown e List.mem_cons_self) hp hmid) hrest

/-- Turns of a worker leave the ledger alone. -/
theorem steps?_sameLedger {w : Nat} (hown : ∀ e ∈ es, e.worker? = some w)
    (hs : p.steps? es = some q) : SameLedger p q := by
  refine steps?_induct_turns (P := SameLedger p) (fun r r' e he h hstep => ?_) es hown
    ⟨rfl, rfl, rfl, rfl, rfl⟩ hs
  have h' := step?_sameLedger (ofWorker_of_worker? he) hstep
  exact ⟨h'.size.trans h.size, h'.permits.trans h.permits, h'.free.trans h.free,
    h'.handles.trans h.handles, h'.nextHandle.trans h.nextHandle⟩

/-- A worker has come, by turns of its own, to where a job has a reply. -/
def Comes (p : Pool) (w j : Nat) (reply : Reply) : Prop :=
  ∃ es q, (∀ e ∈ es, e.worker? = some w) ∧ p.steps? es = some q ∧
    ∃ job, q.jobs[j]? = some job ∧ job.reply = reply

theorem Comes.step? {e : Event} {w j : Nat} {reply : Reply} (he : e.worker? = some w)
    (hs : p.step? e = some q) (hq : q.Comes w j reply) : p.Comes w j reply := by
  obtain ⟨es, r, hown, hes, hjob⟩ := hq
  refine ⟨e :: es, r, ?_, ?_, hjob⟩
  · intro f hf
    rcases List.mem_cons.mp hf with rfl | hf
    · exact he
    · exact hown f hf
  · rw [steps?_cons, hs]
    exact hes

theorem Comes.now {e : Event} {w j : Nat} {job : Job} (he : e.worker? = some w)
    (hs : p.step? e = some q) (hjob : q.jobs[j]? = some job) : p.Comes w j job.reply :=
  Comes.step? he hs ⟨[], q, fun _ hf => absurd hf List.not_mem_nil, rfl, job, hjob, rfl⟩

/-! ### Turns of a worker -/

theorem start_ok {w j : Nat} {own : Interpreter} {queue : List Nat}
    (hk : p.workers[w]? = some ⟨own, j :: queue, none, .working⟩) :
    p.start w = some (p.modifyWorker w fun k => { k with queue := queue, current := some j }) := by
  simp only [Pool.start, hk]

theorem die_ok {w j : Nat} {own : Interpreter} {queue : List Nat}
    (hk : p.workers[w]? = some ⟨own, queue, some j, .working⟩) :
    p.die w = some ((p.modifyJob j fun job => { job with reply := .closed }).modifyWorker w fun k =>
      { k with current := none, phase := .dying }) := by
  simp only [Pool.die, hk]

theorem finish_ok {w j : Nat} {own : Interpreter} {queue : List Nat} {job : Job}
    (cancelAt : Option Nat) (hk : p.workers[w]? = some ⟨own, queue, some j, .working⟩)
    (hjob : p.jobs[j]? = some job)
    (halive : isDeath (own.run cancelAt job.request.script job.request.context).1 = false)
    (hstop : cancelAt.isSome = true → job.cancelled = true) :
    p.finish w cancelAt
      = some (p.reply w j (own.run cancelAt job.request.script job.request.context)) := by
  simp only [Pool.finish, runOf, hk, hjob, Option.map_some, Option.any_some, halive, Bool.false_or]
  rw [if_neg]
  cases hsome : cancelAt.isSome with
  | true => simp [hstop hsome]
  | false => simp

theorem uncount_ok {w : Nat} {k : Worker} (hk : p.workers[w]? = some k)
    (hphase : k.phase = .dying) :
    p.uncount w = some (({ p with live := p.live - 1 } : Pool).modifyWorker w fun k =>
      { k with phase := .uncounted }) := by
  simp only [Pool.uncount, hk, Option.map_some, hphase]

theorem closeQueue_ok {w : Nat} {own : Interpreter} {queue : List Nat} {current : Option Nat}
    (hk : p.workers[w]? = some ⟨own, queue, current, .uncounted⟩) :
    p.closeQueue w = some (({ p with jobs := closed queue p.jobs } : Pool).modifyWorker w fun k =>
      { k with queue := [], phase := .gone }) := by
  simp only [Pool.closeQueue, hk, foldl_close]

/-- The worker that a turn changed. -/
theorem getElem?_modifyWorker {w : Nat} {k : Worker} {f : Worker → Worker}
    (hk : p.workers[w]? = some k) : (p.modifyWorker w f).workers[w]? = some (f k) := by
  show (p.workers.modify w f)[w]? = _
  rw [Array.getElem?_modify, if_pos rfl, hk]
  rfl

/-- The job that a turn gave its reply. -/
theorem getElem?_modifyJob {j : Nat} {job : Job} {f : Job → Job} (hjob : p.jobs[j]? = some job) :
    (p.modifyJob j f).jobs[j]? = some (f job) := by
  show (p.jobs.modify j f)[j]? = _
  rw [Array.getElem?_modify, if_pos rfl, hjob]
  rfl

/-- A worker that takes jobs comes to the one that the handle of its slot waits for, and the reply
is the one of a full run. -/
theorem Attended.comes_of_works : ∀ (m : Nat) {p : Pool} {past : List Deed} {h j : Nat}
    {slot : Slot} {job : Job} {k : Worker}, Attended p → Followed n i p past →
    (h, Holding.held slot (.running j)) ∈ p.handles → p.jobs[j]? = some job →
    job.reply = .waiting → p.workers[slot.worker]? = some k → k.phase = .working → k.toil ≤ m →
    p.Comes slot.worker j (.ofRun (i.run none job.request.script job.request.context).1) := by
  intro m
  induction m with
  | zero =>
      intro p past h j slot job k a c hh hjob hwaiting hk hphase htoil
      obtain ⟨job', hjob', hhas, -⟩ := a.awaited _ hh slot j rfl
      obtain rfl : job = job' := Option.some.inj (hjob.symm.trans hjob')
      obtain ⟨k', hk', hmem⟩ := hhas hwaiting
      obtain rfl : k = k' := Option.some.inj (hk.symm.trans hk')
      have hlength : 0 < k.jobs.length := List.length_pos_of_mem hmem
      unfold Worker.jobs at hlength
      unfold Worker.toil at htoil
      rw [List.length_append] at hlength
      omega
  | succ m ih =>
      intro p past h j slot job k a c hh hjob hwaiting hk hphase htoil
      obtain ⟨job', hjob', hhas, -⟩ := a.awaited _ hh slot j rfl
      obtain rfl : job = job' := Option.some.inj (hjob.symm.trans hjob')
      obtain ⟨k', hk', hmem⟩ := hhas hwaiting
      obtain rfl : k = k' := Option.some.inj (hk.symm.trans hk')
      obtain ⟨own, queue, current, phase⟩ := k
      obtain rfl : phase = .working := hphase
      obtain rfl : own = i := c.isolated.workers _ _ hk
      cases current with
      | none =>
          cases queue with
          | nil => cases hmem
          | cons l rest =>
              have hs := start_ok hk
              refine Comes.step? (e := .start slot.worker) rfl hs ?_
              refine ih (a.start c hs) (c.step? (e := .start slot.worker) hs) hh hjob hwaiting
                (getElem?_modifyWorker hk) rfl ?_
              simp only [Worker.toil, List.length_cons, Option.toList_none, List.length_nil]
                at htoil
              simp only [Worker.toil, Option.toList_some, List.length_cons, List.length_nil]
              omega
      | some l =>
          by_cases hl : l = j
          · subst hl
            cases hdeath : isDeath (own.run none job.request.script job.request.context).1 with
            | true =>
                rw [show Reply.ofRun _ = .closed from if_pos hdeath]
                exact Comes.now (e := .die slot.worker) rfl (die_ok hk) (getElem?_modifyJob hjob)
            | false =>
                have hs := finish_ok none hk hjob hdeath fun hsome => by cases hsome
                rw [show Reply.ofRun _ = .answered _ from
                  if_neg (by rw [hdeath]; exact Bool.false_ne_true)]
                exact Comes.now (e := .finish slot.worker none) rfl hs (getElem?_modifyJob hjob)
          · -- nobody waits for a job in front of the last one, so it can be stopped at once
            rcases a.cancelled_or_own hh rfl (j := l) ⟨_, hk, List.mem_cons_self⟩ with
              ⟨other, hother, hcancelled⟩ | heq
            · have hs := finish_ok (some 0) hk hother rfl fun _ => hcancelled
              refine Comes.step? (e := .finish slot.worker (some 0)) rfl hs ?_
              refine ih (a.finish c hs) (c.step? (e := .finish slot.worker (some 0)) hs) hh ?_
                hwaiting (getElem?_modifyWorker (p := p.modifyJob l _) hk) rfl ?_
              · show (p.jobs.modify l _)[j]? = _
                rw [Array.getElem?_modify, if_neg hl]
                exact hjob
              · simp only [Worker.toil, Option.toList_some, List.length_cons, List.length_nil]
                  at htoil
                simp only [Worker.toil, Option.toList_none, List.length_nil]
                omega
            · cases heq
              exact absurd rfl hl

/-- A worker that is dead comes to let go of everything that it has. -/
theorem Attended.comes_of_dead (a : Attended p) {h j : Nat} {slot : Slot} {job : Job}
    (hh : (h, Holding.held slot (.running j)) ∈ p.handles) (hjob : p.jobs[j]? = some job)
    (hwaiting : job.reply = .waiting) (hdead : ¬ p.works slot.worker) :
    p.Comes slot.worker j .closed := by
  obtain ⟨job', hjob', hhas, -⟩ := a.awaited _ hh slot j rfl
  obtain rfl : job = job' := Option.some.inj (hjob.symm.trans hjob')
  obtain ⟨k, hk, hmem⟩ := hhas hwaiting
  have hidle : k.current = none := (a.orderly _ k hk).1 fun hw => hdead ⟨k, hk, hw⟩
  have hqueue : j ∈ k.queue := by
    unfold Worker.jobs at hmem
    rw [hidle] at hmem
    exact hmem
  -- once it is uncounted, the queue goes with everything in it
  have hclose : ∀ {r : Pool} {l : Worker}, r.workers[slot.worker]? = some l → l.queue = k.queue →
      l.phase = .uncounted → r.jobs = p.jobs → r.Comes slot.worker j .closed := by
    intro r l hl hsame hphase hjobs
    obtain ⟨own, queue, current, phase⟩ := l
    obtain rfl : phase = .uncounted := hphase
    obtain rfl : queue = k.queue := hsame
    have hclosed : (closed k.queue r.jobs)[j]? = some { job with reply := .closed } := by
      rw [getElem?_closed_eq, hjobs, hjob, if_pos hqueue]
      rfl
    exact Comes.now (e := .closeQueue slot.worker) rfl (closeQueue_ok hl) hclosed
  cases hphase : k.phase with
  | working => exact absurd ⟨k, hk, hphase⟩ hdead
  | dying =>
      refine Comes.step? (e := .uncount slot.worker) rfl (uncount_ok hk hphase) ?_
      exact hclose (getElem?_modifyWorker (p := { p with live := p.live - 1 }) hk) rfl rfl rfl
  | uncounted => exact hclose hk rfl hphase rfl
  | gone =>
      rw [(a.orderly _ k hk).2 hphase] at hqueue
      cases hqueue

/-! ### Being told -/

/-- Workers tell callers nothing; callers ask. -/
theorem answers_turn {e : Event} {w : Nat} (he : e.worker? = some w) (hs : p.step? e = some q) :
    q.answers = p.answers := by
  rw [answers_step? hs]
  cases e with
  | start v =>
      obtain ⟨_, _, _, hk, -⟩ := start_cases hs
      show ((p.startDeeds v).filterMap _).reverse ++ _ = _
      rw [startDeeds_eq hk]
      rfl
  | finish v cancelAt =>
      obtain ⟨_, _, _, _, hk, hjob, -, -, -⟩ := finish_cases hs
      show ((p.finishDeeds v cancelAt).filterMap _).reverse ++ _ = _
      rw [finishDeeds_eq hk hjob]
      rfl
  | die | uncount | closeQueue => rfl
  | _ => cases he

theorem answers_steps? {w : Nat} (hown : ∀ e ∈ es, e.worker? = some w)
    (hs : p.steps? es = some q) : q.answers = p.answers :=
  steps?_induct_turns (P := fun r => r.answers = p.answers)
    (fun _ _ _ he h hstep => (answers_turn he hstep).trans h) es hown rfl hs

/-- A caller whose job has come to have a reply is told it when it asks. -/
theorem Comes.told {h j : Nat} {slot : Slot} {reply : Reply}
    (hh : p.holding? h = some (.held slot (.running j))) (hreply : reply ≠ .waiting)
    (hcomes : p.Comes slot.worker j reply) : ∃ es q,
      (∀ e ∈ es, e.worker? = some slot.worker) ∧ p.steps? (es ++ [.receive h]) = some q ∧
        q.answers = ⟨j, reply.told slot.id⟩ :: p.answers := by
  obtain ⟨es, q, hown, hs, job, hjob, rfl⟩ := hcomes
  have hheld : q.holding? h = some (.held slot (.running j)) := by
    unfold holding?
    rw [(steps?_sameLedger hown hs).handles]
    exact hh
  have hreceive : ∃ r, q.receive h = some r ∧
      r.answers = ⟨j, job.reply.told slot.id⟩ :: q.answers := by
    unfold Pool.receive
    simp only [hheld, hjob, Option.map_some]
    cases hr : job.reply with
    | waiting => exact absurd hr hreply
    | answered outcome =>
        cases outcome with
        | ok o => exact ⟨_, rfl, rfl⟩
        | error t => exact ⟨_, rfl, rfl⟩
    | closed => exact ⟨_, rfl, rfl⟩
  obtain ⟨r, hr, hanswers⟩ := hreceive
  refine ⟨es, r, hown, ?_, ?_⟩
  · rw [steps?_append, hs, Option.bind_some, steps?_cons, show q.step? (.receive h) = _ from hr]
    rfl
  · rw [hanswers, answers_steps? hown hs]

/-- What a caller is told of a reply that is the one of a full run is what the job comes to by
itself. -/
theorem alone_eq (i : Interpreter) (slot : Nat) (request : EvalRequest) :
    alone i slot request
      = .answered ((Reply.ofRun (i.run none request.script request.context).1).told slot) := by
  have hfull := i.run_none_ne_cancelled request.script request.context
  unfold alone
  cases hdeath : isDeath (i.run none request.script request.context).1 with
  | false =>
      rw [Evaluation.ofRun_eq slot hdeath hfull, show Reply.ofRun _ = .answered _ from
        if_neg (by rw [hdeath]; exact Bool.false_ne_true)]
      rfl
  | true =>
      rw [isDeath_iff.mp hdeath]
      rfl

/-- **Whoever waits can come to be told, by turns of its own worker alone**, and what its job comes
to by itself if that worker takes jobs. -/
theorem can_be_told (hs : (new n i).steps? es = some p) {h j : Nat} {slot : Slot}
    (hh : p.holding? h = some (.held slot (.running j))) : ∃ job fs q told,
      p.jobs[j]? = some job ∧ (∀ f ∈ fs, f.worker? = some slot.worker) ∧
      p.steps? (fs ++ [.receive h]) = some q ∧ q.answers = ⟨j, told⟩ :: p.answers ∧
      (p.works slot.worker → alone i slot.id job.request = .answered told) := by
  have c := followed_of_steps? hs
  have a := attended_of_steps? hs
  have hmem := mem_of_holding hh
  obtain ⟨job, hjob, hhas, hclosed⟩ := a.awaited _ hmem slot j rfl
  by_cases hworks : p.works slot.worker
  · -- the reply is there already, or the worker comes to give it
    have hcomes : p.Comes slot.worker j
        (.ofRun (i.run none job.request.script job.request.context).1) := by
      cases hreply : job.reply with
      | waiting =>
          obtain ⟨k, hk, hphase⟩ := hworks
          exact a.comes_of_works k.toil c hmem hjob hreply hk hphase (Nat.le_refl _)
      | answered outcome =>
          obtain ⟨halive, -⟩ := c.isolated.jobs j job hjob outcome hreply
          rw [c.isolated.full_of_awaited hh hjob hreply] at halive
          refine ⟨[], p, fun _ hf => absurd hf List.not_mem_nil, rfl, job, hjob, ?_⟩
          rw [hreply, c.isolated.full_of_awaited hh hjob hreply, show Reply.ofRun _ = .answered _
            from if_neg (by rw [halive]; exact Bool.false_ne_true)]
      | closed => exact absurd hworks (hclosed hreply)
    have hne : Reply.ofRun (i.run none job.request.script job.request.context).1 ≠ .waiting := by
      unfold Reply.ofRun
      split
      · exact fun hc => by cases hc
      · exact fun hc => by cases hc
    obtain ⟨fs, q, hown, hfs, hanswers⟩ := hcomes.told hh hne
    exact ⟨job, fs, q, _, hjob, hown, hfs, hanswers, fun _ => alone_eq i slot.id job.request⟩
  · have hcomes : ∃ reply, reply ≠ .waiting ∧ p.Comes slot.worker j reply := by
      cases hreply : job.reply with
      | waiting => exact ⟨.closed, fun hc => (by cases hc), a.comes_of_dead hmem hjob hreply hworks⟩
      | _ =>
          refine ⟨job.reply, by rw [hreply]; exact fun hc => (by cases hc), [], p,
            fun _ hf => absurd hf List.not_mem_nil, rfl, job, hjob, rfl⟩
    obtain ⟨reply, hne, hcomes⟩ := hcomes
    obtain ⟨fs, q, hown, hfs, hanswers⟩ := hcomes.told hh hne
    exact ⟨job, fs, q, _, hjob, hown, hfs, hanswers, fun hw => absurd hw hworks⟩

/-! ### The cost of a death -/

/-- **A death costs the evaluation of the job, and those that the worker is given after a job that
was given up.**  Whoever was told of a loss had sent its job to a worker that died in it, or that
died in an earlier job whose caller had left.  Everybody else that was told anything was told what a
full run of its own request comes to; and whoever still waits can come to be told, by turns of its
own worker alone, and what its job comes to by itself if that worker takes jobs. -/
theorem losses_have_cause (hs : (new n i).steps? es = some p) :
    let past := (new n i).history es
    let known := (new n i).fates es
    (∀ h j e, .lost h j e ∈ past → ∃ w, .given w j ∈ known ∧ (.died w j ∈ known ∨
      ∃ g k, k < j ∧ .died w k ∈ known ∧ .abandoned g k ∈ past)) ∧
    (∀ h j outcome, .told h j outcome ∈ past → ∃ request, .sent h j request ∈ past ∧
      outcome = (i.run none request.script request.context).1) ∧
    ∀ h slot j, p.holding? h = some (.held slot (.running j)) → ∃ job fs q told,
      p.jobs[j]? = some job ∧ (∀ f ∈ fs, f.worker? = some slot.worker) ∧
      p.steps? (fs ++ [.receive h]) = some q ∧ q.answers = ⟨j, told⟩ :: p.answers ∧
      (p.works slot.worker → alone i slot.id job.request = .answered told) := by
  intro past known
  refine ⟨(explained_of_steps? hs).lost, fun h j outcome htold => ?_,
    fun h slot j hh => can_be_told hs hh⟩
  obtain ⟨request, hsent, -, hrun⟩ := (followed_of_steps? hs).recorded.told h j outcome htold
  exact ⟨request, hsent, hrun⟩

/-- A condition that holds. -/
def harmless : EvalRequest :=
  ⟨"True", ⟨"a", 0, .null⟩⟩

/-- A caller leaves while its job runs; the next one sends a job to the same worker, which then dies
in the job that was given up. -/
def belated : List Event :=
  [.takePermit, .popSlot 0, .send 0 fatal, .start 0, .dropHandle 0, .returnPermit 0,
    .takePermit, .popSlot 1, .send 1 harmless, .die 0, .uncount 0, .closeQueue 0, .receive 1]

theorem losses_have_cause_belated : ∃ p, (new 1 Interpreter.bare).steps? belated = some p ∧
    .lost 1 1 (.stopped 0) ∈ (new 1 Interpreter.bare).history belated ∧
    ∃ w, .given w 1 ∈ (new 1 Interpreter.bare).fates belated ∧
      (.died w 1 ∈ (new 1 Interpreter.bare).fates belated ∨
        ∃ g k, k < 1 ∧ .died w k ∈ (new 1 Interpreter.bare).fates belated ∧
          .abandoned g k ∈ (new 1 Interpreter.bare).history belated) := by
  obtain ⟨p, hp⟩ : ∃ p, (new 1 Interpreter.bare).steps? belated = some p := ⟨_, rfl⟩
  have hlost : .lost 1 1 (.stopped 0) ∈ (new 1 Interpreter.bare).history belated := by
    rw [show (new 1 Interpreter.bare).history belated = [.sent 0 0 fatal, .begun 0, .abandoned 0 0,
      .sent 1 1 harmless, .lost 1 1 (.stopped 0)] from rfl]
    simp
  exact ⟨p, hp, hlost, (losses_have_cause hp).1 1 1 _ hlost⟩

/-- The condition of the second caller holds, and no worker died in its job, but it is told that its
worker stopped. -/
theorem loss_without_death : ∃ p, (new 1 Interpreter.bare).steps? belated = some p ∧
    p.answers = [⟨1, .error (.stopped 0)⟩] ∧
    (∀ w, .died w 1 ∉ (new 1 Interpreter.bare).fates belated) ∧
    ∃ o, alone Interpreter.bare 0 harmless = .answered (.ok o) ∧ o.matched = true := by
  refine ⟨_, rfl, rfl, fun w hdied => ?_, ?_⟩
  · rw [show (new 1 Interpreter.bare).fates belated = [.given 0 0, .given 0 1, .died 0 0]
      from rfl] at hdied
    simp at hdied
  · have hholds : (match alone Interpreter.bare 0 harmless with
        | .answered (.ok o) => o.matched
        | _ => false) = true := by decide +kernel
    split at hholds
    · case _ o halone => exact ⟨o, halone, hholds⟩
    · cases hholds

end Lookout.Pool
