/-
Replies never cross.

Several jobs of different callers can sit in the queue of one worker: a slot goes back when its
caller leaves, and its worker may still be at the job that was given up.  What a caller is told is
nevertheless what a full run of its own request comes to.  A handle is told about the job that it
waits for, which is the job that it sent; that job was not given up, so its run was not stopped;
and the run of no other job shows in it.

`Recorded` joins a state to its history: what the state shows of a job, a handle or a reply, the
history accounts for.  That is kept by every step, since a step changes nothing without writing it
down.  Together with the tally of the jobs it gives the statement for every run.
-/
import Lookout.Proofs.Pool.Tally

namespace Lookout.Pool

open Script (Interpreter Outcome Trouble)

/-- What the history of a pool accounts for. -/
structure Recorded (i : Interpreter) (p : Pool) (past : List Deed) : Prop where
  /-- Every job was sent, and asks for what it was sent with. -/
  requests : ∀ (j : Nat) (job : Job), p.jobs[j]? = some job →
    ∃ h, .sent h j job.request ∈ past
  /-- The answer of a job was given to it. -/
  replies : ∀ (j : Nat) (job : Job) outcome, p.jobs[j]? = some job →
    job.reply = .answered outcome → .answered j outcome ∈ past
  /-- The flag of a job is set if it was given up, and only then. -/
  flags : ∀ (j : Nat) (job : Job), p.jobs[j]? = some job →
    (job.cancelled = true ↔ ∃ h, .abandoned h j ∈ past)
  /-- A handle waits for a job that it sent. -/
  waits : ∀ e ∈ p.handles, ∀ j, e.2.job? = some j → ∃ request, .sent e.1 j request ∈ past
  /-- Who gave up a job had sent it. -/
  abandoned : ∀ h j, .abandoned h j ∈ past → ∃ request, .sent h j request ∈ past
  /-- Who was told something had sent the job, and was told what a full run of it comes to. -/
  told : ∀ h j outcome, .told h j outcome ∈ past → ∃ request, .sent h j request ∈ past ∧
    .answered j outcome ∈ past ∧ outcome = (i.run none request.script request.context).1
  /-- Callers were told what the history says they were. -/
  answers : p.answers = (past.filterMap Deed.answer?).reverse

variable {n : Nat} {i : Interpreter} {p q : Pool} {past : List Deed}

/-- An answer that a handle waits for is that of a full run. -/
theorem Isolated.full_of_awaited (c : Isolated i p) {h j : Nat} {slot : Slot} {job : Job}
    {outcome : Except Trouble Outcome} (hh : p.holding? h = some (.held slot (.running j)))
    (hjob : p.jobs[j]? = some job) (hreply : job.reply = .answered outcome) :
    outcome = (i.run none job.request.script job.request.context).1 := by
  obtain ⟨-, cancelAt, hrun, hstopped⟩ := c.jobs j job hjob outcome hreply
  obtain ⟨awaited, hawaited, hlive⟩ := c.awaited _ (mem_of_holding hh) j rfl
  obtain rfl : awaited = job := Option.some.inj (hawaited.symm.trans hjob)
  cases cancelAt with
  | none => exact hrun
  | some n =>
      rw [hstopped rfl] at hlive
      cases hlive

namespace Recorded

/-- Who gives up a job had sent it in an earlier step. -/
theorem sent_of_abandoned (c : Recorded i p past) {e : Event} {h j : Nat}
    (hmem : .abandoned h j ∈ past ++ p.deeds e) : ∃ request, .sent h j request ∈ past := by
  rcases List.mem_append.mp hmem with hold | hnew
  · exact c.abandoned h j hold
  · obtain ⟨-, slot, hh⟩ := abandoned_mem_deeds hnew
    exact c.waits _ (mem_of_holding hh) j rfl

/-- Who is told something had sent the job in an earlier step, and waits for it. -/
theorem told_step? (c : Recorded i p past) (hisolated : Isolated i p) (htallied : Tallied p past)
    {e : Event} {h j : Nat} {outcome : Except Trouble Outcome}
    (hmem : .told h j outcome ∈ p.deeds e) : ∃ request, .sent h j request ∈ past ∧
      .answered j outcome ∈ past ∧ outcome = (i.run none request.script request.context).1 := by
  obtain ⟨slot, job, hh, hjob, hreply⟩ := told_mem_deeds hmem
  obtain ⟨request, hsent⟩ := c.waits _ (mem_of_holding hh) j rfl
  -- the job is still the one that was sent, so it asks for what its caller wants to know
  obtain ⟨k, hasked⟩ := c.requests j job hjob
  obtain ⟨-, rfl⟩ := htallied.sent_unique hsent hasked
  exact ⟨_, hsent, c.replies j job outcome hjob hreply,
    hisolated.full_of_awaited hh hjob hreply⟩

theorem step? (c : Recorded i p past) (hisolated : Isolated i p) (htallied : Tallied p past)
    {e : Event} (hs : p.step? e = some q) : Recorded i q (past ++ p.deeds e) where
  requests := fun j later hj => by
    rcases job_step? hs hj with ⟨job, hjob, hbecomes⟩ | hcomes
    · obtain ⟨h, hsent⟩ := c.requests j job hjob
      rw [hbecomes.request]
      exact ⟨h, List.mem_append_left _ hsent⟩
    · obtain ⟨h, hsent⟩ := hcomes.sent
      exact ⟨h, List.mem_append_right _ hsent⟩
  replies := fun j later outcome hj hreply => by
    rcases job_step? hs hj with ⟨job, hjob, hbecomes⟩ | hcomes
    · rcases hbecomes.reply outcome hreply with hold | hnew
      · exact List.mem_append_left _ (c.replies j job outcome hjob hold)
      · exact List.mem_append_right _ hnew
    · exact absurd hreply (hcomes.reply outcome)
  flags := fun j later hj => by
    rcases job_step? hs hj with ⟨job, hjob, hbecomes⟩ | hcomes
    · rw [hbecomes.cancelled, c.flags j job hjob]
      constructor
      · rintro (⟨h, hold⟩ | ⟨h, hnew⟩)
        · exact ⟨h, List.mem_append_left _ hold⟩
        · exact ⟨h, List.mem_append_right _ hnew⟩
      · rintro ⟨h, hmem⟩
        exact (List.mem_append.mp hmem).imp (fun hold => ⟨h, hold⟩) fun hnew => ⟨h, hnew⟩
    · -- a job that has only just been sent was not given up
      rw [hcomes.cancelled]
      refine ⟨fun hset => absurd hset Bool.false_ne_true, fun ⟨h, hmem⟩ => ?_⟩
      obtain ⟨request, hsent⟩ := c.sent_of_abandoned hmem
      exact absurd hcomes.number (Nat.ne_of_lt (htallied.lt_of_sent hsent))
  waits := fun d hd j hwaits => by
    rcases waits_step? hs hd hwaits with hold | ⟨request, hnew⟩
    · obtain ⟨request, hsent⟩ := c.waits d hold j hwaits
      exact ⟨request, List.mem_append_left _ hsent⟩
    · exact ⟨request, List.mem_append_right _ hnew⟩
  abandoned := fun h j hmem => by
    obtain ⟨request, hsent⟩ := c.sent_of_abandoned hmem
    exact ⟨request, List.mem_append_left _ hsent⟩
  told := fun h j outcome hmem => by
    have hpast : ∃ request, .sent h j request ∈ past ∧ .answered j outcome ∈ past ∧
        outcome = (i.run none request.script request.context).1 := by
      rcases List.mem_append.mp hmem with hold | hnew
      · exact c.told h j outcome hold
      · exact c.told_step? hisolated htallied hnew
    obtain ⟨request, hsent, hanswered, hrun⟩ := hpast
    exact ⟨request, List.mem_append_left _ hsent, List.mem_append_left _ hanswered, hrun⟩
  answers := by
    rw [answers_step? hs, c.answers, List.filterMap_append, List.reverse_append]

end Recorded

theorem recorded_new (size : Nat) (i : Interpreter) : Recorded i (new size i) [] where
  requests := fun j job hj => by cases hj
  replies := fun j job outcome hj => by cases hj
  flags := fun j job hj => by cases hj
  waits := fun e he => by cases he
  abandoned := fun h j hmem => by cases hmem
  told := fun h j outcome hmem => by cases hmem
  answers := rfl

/-! ### Every run -/

/-- A state that a run led to, and what happened on the way. -/
structure Followed (n : Nat) (i : Interpreter) (p : Pool) (past : List Deed) : Prop where
  conserved : Conserved n p
  isolated : Isolated i p
  tallied : Tallied p past
  recorded : Recorded i p past

theorem Followed.step? (c : Followed n i p past) {e : Event} (hs : p.step? e = some q) :
    Followed n i q (past ++ p.deeds e) where
  conserved := c.conserved.step? hs
  isolated := c.isolated.step? hs
  tallied := c.tallied.move (moves_step? c.conserved hs)
  recorded := c.recorded.step? c.isolated c.tallied hs

theorem Followed.steps? : ∀ (es : List Event) {p : Pool} {past : List Deed}, Followed n i p past →
    p.steps? es = some q → Followed n i q (past ++ p.history es) := by
  intro es
  induction es with
  | nil =>
      intro p past c hs
      cases hs
      rw [history, List.append_nil]
      exact c
  | cons e rest ih =>
      intro p past c hs
      rw [steps?_cons] at hs
      obtain ⟨mid, hmid, hrest⟩ := Option.bind_eq_some_iff.mp hs
      rw [history_cons hmid, ← List.append_assoc]
      exact ih (c.step? hmid) hrest

theorem followed_of_steps? {size : Nat} {es : List Event} (hs : (new size i).steps? es = some p) :
    Followed size i p ((new size i).history es) :=
  Followed.steps? es
    ⟨conserved_new size i, isolated_new size i, tallied_new size i, recorded_new size i⟩ hs

/-- **Replies never cross.**  In every run of a pool, whoever is told the outcome of a job had sent
that job, and is told what its worker answered, which is what a full run of the request comes to;
and that is all that callers are told, apart from the loss of a worker.  Nobody is told anything
about a job that was given up, whenever that was.  Jobs are sent, begun, answered and done with
once at most.  And the flag of a job is set if it was given up and only then, so that no job is
cancelled while its caller waits for it. -/
theorem replies_never_cross {size : Nat} {es : List Event}
    (hs : (new size i).steps? es = some p) :
    let past := (new size i).history es
    p.answers = (past.filterMap Deed.answer?).reverse ∧
    (∀ h j outcome, .told h j outcome ∈ past → ∃ request, .sent h j request ∈ past ∧
      .answered j outcome ∈ past ∧ outcome = (i.run none request.script request.context).1) ∧
    (∀ h j, .abandoned h j ∈ past → (∃ request, .sent h j request ∈ past) ∧
      ∀ k outcome, .told k j outcome ∉ past) ∧
    (∀ j, past.countP (Deed.sends j) ≤ 1 ∧ past.countP (Deed.begins j) ≤ 1 ∧
      past.countP (Deed.answers j) ≤ 1 ∧ past.countP (Deed.settles j) ≤ 1) ∧
    (∀ (j : Nat) (job : Job), p.jobs[j]? = some job →
      (job.cancelled = true ↔ ∃ h, .abandoned h j ∈ past)) ∧
    ∀ h slot j, p.holding? h = some (.held slot (.running j)) →
      ∃ job, p.jobs[j]? = some job ∧ job.cancelled = false := by
  intro past
  have c := followed_of_steps? hs
  refine ⟨c.recorded.answers, c.recorded.told,
    fun h j habandoned => ⟨c.recorded.abandoned h j habandoned, ?_⟩,
    fun j => ⟨c.tallied.sent_le j, c.tallied.begun_le j, c.tallied.answered_le j,
      c.tallied.settled_le j⟩,
    c.recorded.flags, fun h slot j hh => ?_⟩
  · exact fun k outcome => c.tallied.not_told_of_abandoned habandoned
  · exact c.isolated.awaited _ (mem_of_holding hh) j rfl

/-- Two callers leave, the first while its job runs and the second while its job waits behind that
one; the third, whose job waits behind both, is answered. -/
def queueing : List Event :=
  let c : AlertContext := ⟨"a", 0, .null⟩
  [.takePermit, .popSlot 0, .send 0 ⟨"False", c⟩, .start 0, .dropHandle 0, .returnPermit 0,
    .takePermit, .popSlot 1, .send 1 ⟨"False", c⟩, .dropHandle 1, .returnPermit 1,
    .takePermit, .popSlot 2, .send 2 ⟨"True", c⟩, .finish 0 none, .start 0, .finish 0 (some 0),
    .start 0, .finish 0 none, .receive 2]

theorem replies_never_cross_queueing :
    let past := (new 1 Interpreter.bare).history queueing
    ∃ p o request, (new 1 Interpreter.bare).steps? queueing = some p ∧ o.matched = true ∧
      .told 2 2 (.ok o) ∈ past ∧ .sent 2 2 request ∈ past ∧
      .ok o = (Interpreter.bare.run none request.script request.context).1 ∧
      .abandoned 0 0 ∈ past ∧ .abandoned 1 1 ∈ past ∧
      ∀ k outcome, .told k 0 outcome ∉ past ∧ .told k 1 outcome ∉ past := by
  intro past
  have hrun : ((new 1 Interpreter.bare).steps? queueing).isSome = true := by decide +kernel
  have htold : past.any (fun
      | .told 2 2 (.ok o) => o.matched
      | _ => false) = true := by decide +kernel
  have habandoned : ∀ j < 2, past.any (fun
      | .abandoned h k => h == j && k == j
      | _ => false) = true := by decide +kernel
  have hmem : ∀ j < 2, .abandoned j j ∈ past := by
    intro j hj
    obtain ⟨d, hd, hfit⟩ := List.any_eq_true.mp (habandoned j hj)
    split at hfit
    · case _ h k =>
      obtain ⟨rfl, rfl⟩ : h = j ∧ k = j := by simpa using hfit
      exact hd
    · cases hfit
  obtain ⟨p, hp⟩ := Option.isSome_iff_exists.mp hrun
  obtain ⟨d, hd, hfit⟩ := List.any_eq_true.mp htold
  obtain ⟨-, hanswers, hnone, -⟩ := replies_never_cross hp
  split at hfit
  · case _ o =>
    obtain ⟨request, hsent, -, ho⟩ := hanswers 2 2 (.ok o) hd
    exact ⟨p, o, request, hp, hfit, hd, hsent, ho, hmem 0 (by decide), hmem 1 (by decide),
      fun k outcome => ⟨(hnone 0 0 (hmem 0 (by decide))).2 k outcome,
        (hnone 1 1 (hmem 1 (by decide))).2 k outcome⟩⟩
  · cases hfit

end Lookout.Pool
