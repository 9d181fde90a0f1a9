/-
Every job goes the same way, and goes it once.

A job is sent, waits in one queue, is begun and is answered; its caller waits for it and is then
done with it.  Nothing of this happens to a job twice.  That is a matter of counting.  Each step
moves a job one place further on or takes it out, so for each job

    queued + begun     ≤ sent,
    running + answered ≤ begun,
    waiting + settled  ≤ sent,

and jobs are sent under new numbers, so that each is sent once.  `Tallied` is these inequalities.
Several jobs of different callers may well be in one queue; what counts is that no job is in two.
-/
import Lookout.Proofs.Pool.History

namespace Lookout.Pool

open Script (Interpreter Outcome Trouble)

/-- How often a job is in a queue. -/
def queued (j : Nat) (p : Pool) : Nat :=
  (p.workers.toList.flatMap Worker.queue).count j

/-- How many workers are at a job. -/
def running (j : Nat) (p : Pool) : Nat :=
  p.workers.toList.countP fun k => k.current == some j

/-- How many handles wait for a job. -/
def waiting (j : Nat) (p : Pool) : Nat :=
  p.handles.countP fun e => e.2.job? == some j

/-- Each job is where it is, and has been where it has been, once. -/
structure Tallied (p : Pool) (past : List Deed) : Prop where
  /-- The jobs that were sent are the jobs there are. -/
  sent : ∀ j, past.countP (Deed.sends j) = if j < p.jobs.size then 1 else 0
  begun : ∀ j, p.queued j + past.countP (Deed.begins j) ≤ past.countP (Deed.sends j)
  answered : ∀ j, p.running j + past.countP (Deed.answers j) ≤ past.countP (Deed.begins j)
  settled : ∀ j, p.waiting j + past.countP (Deed.settles j) ≤ past.countP (Deed.sends j)

variable {p q : Pool} {past added : List Deed}

/-- What a step does to the counts. -/
structure Moves (p q : Pool) (added : List Deed) : Prop where
  sent : ∀ j, (if j < q.jobs.size then 1 else 0)
    = (if j < p.jobs.size then 1 else 0) + added.countP (Deed.sends j)
  begun : ∀ j, q.queued j + added.countP (Deed.begins j) ≤ p.queued j + added.countP (Deed.sends j)
  answered : ∀ j, q.running j + added.countP (Deed.answers j)
    ≤ p.running j + added.countP (Deed.begins j)
  settled : ∀ j, q.waiting j + added.countP (Deed.settles j)
    ≤ p.waiting j + added.countP (Deed.sends j)

theorem Tallied.move (c : Tallied p past) (m : Moves p q added) : Tallied q (past ++ added) where
  sent := fun j => by
    rw [List.countP_append, c.sent j]
    exact (m.sent j).symm
  begun := fun j => by
    have hc := c.begun j
    have hm := m.begun j
    rw [List.countP_append, List.countP_append]
    omega
  answered := fun j => by
    have hc := c.answered j
    have hm := m.answered j
    rw [List.countP_append, List.countP_append]
    omega
  settled := fun j => by
    have hc := c.settled j
    have hm := m.settled j
    rw [List.countP_append, List.countP_append]
    omega

/-! ### One worker changed, or one handle -/

theorem split_workers {w : Nat} {k : Worker} (hk : p.workers[w]? = some k) (f : Worker → Worker) :
    ∃ l r, p.workers.toList = l ++ k :: r ∧ (p.workers.modify w f).toList = l ++ f k :: r := by
  obtain ⟨hw, -⟩ := Array.getElem?_eq_some_iff.mp hk
  obtain ⟨l, k', r, hold, hlength, hnew⟩ := List.exists_of_modify f (l := p.workers.toList) hw
  have hget : p.workers.toList[w]? = some k' := by
    rw [hold, ← hlength, List.getElem?_append_right (Nat.le_refl _), Nat.sub_self]
    rfl
  rw [Array.getElem?_toList, hk] at hget
  obtain rfl := Option.some.inj hget
  exact ⟨l, r, hold, by rw [Array.toList_modify, hnew]⟩

theorem count_cons_toNat (k j : Nat) (queue : List Nat) :
    (k :: queue).count j = (k == j).toNat + queue.count j :=
  countP_cons_toNat _ k queue

/-- The same jobs are in queues, and workers are at the same jobs. -/
def SameWork (p q : Pool) : Prop :=
  ∀ j, q.queued j = p.queued j ∧ q.running j = p.running j

theorem SameWork.of_eq (h : q.workers = p.workers) : SameWork p q := by
  intro j
  unfold queued running
  rw [h]
  exact ⟨rfl, rfl⟩

/-- A worker that has not worked yet has no jobs. -/
theorem SameWork.push {i : Interpreter} (h : q.workers = p.workers.push (Worker.new i)) :
    SameWork p q := by
  intro j
  unfold queued running
  rw [h, Array.toList_push]
  simp [Worker.new]

/-- Steps of callers leave the queues alone. -/
theorem moves_of_caller (hsize : q.jobs.size = p.jobs.size) (hwork : SameWork p q)
    (hquiet : ∀ j, added.countP (Deed.sends j) = 0 ∧ added.countP (Deed.begins j) = 0 ∧
      added.countP (Deed.answers j) = 0)
    (hsettled : ∀ j, q.waiting j + added.countP (Deed.settles j) ≤ p.waiting j) :
    Moves p q added := by
  refine ⟨fun j => ?_, fun j => ?_, fun j => ?_, fun j => ?_⟩
  · rw [hsize, (hquiet j).1]
    rfl
  · refine Nat.le_of_eq ?_
    rw [(hwork j).1, (hquiet j).1, (hquiet j).2.1]
  · refine Nat.le_of_eq ?_
    rw [(hwork j).2, (hquiet j).2.1, (hquiet j).2.2]
  · rw [(hquiet j).1]
    exact hsettled j

/-- Steps of a worker leave the handles alone, and take a job from the queue only to begin it. -/
theorem moves_of_worker {r : Pool} {w : Nat} {k : Worker} {f : Worker → Worker}
    (hsize : r.jobs.size = p.jobs.size) (hhandles : r.handles = p.handles)
    (hworkers : r.workers = p.workers) (hk : p.workers[w]? = some k)
    (hquiet : ∀ j, added.countP (Deed.sends j) = 0 ∧ added.countP (Deed.settles j) = 0)
    (hbegun : ∀ j, (f k).queue.count j + added.countP (Deed.begins j) ≤ k.queue.count j)
    (hanswered : ∀ j, ((f k).current == some j).toNat + added.countP (Deed.answers j)
      ≤ (k.current == some j).toNat + added.countP (Deed.begins j)) :
    Moves p (r.modifyWorker w f) added := by
  obtain ⟨left, right, hold, hnew⟩ := split_workers hk f
  have hmodified : (r.modifyWorker w f).workers.toList = left ++ f k :: right := by
    unfold modifyWorker
    rw [hworkers]
    exact hnew
  refine ⟨fun j => ?_, fun j => ?_, fun j => ?_, fun j => ?_⟩
  · show (if j < r.jobs.size then 1 else 0) = _
    rw [hsize, (hquiet j).1]
    rfl
  · have hb := hbegun j
    unfold queued
    rw [hmodified, hold, (hquiet j).1]
    simp only [List.flatMap_append, List.flatMap_cons, List.count_append]
    omega
  · have ha := hanswered j
    unfold running
    rw [hmodified, hold]
    simp only [List.countP_append, countP_cons_toNat]
    omega
  · refine Nat.le_of_eq ?_
    show r.handles.countP _ + _ = p.handles.countP _ + _
    rw [hhandles, (hquiet j).1, (hquiet j).2]

/-! ### Steps -/

variable {n : Nat}

theorem waiting_hold {h : Nat} {old : Holding} (c : Conserved n p) (new : Holding)
    (hh : p.holding? h = some old) (j : Nat) :
    (p.hold h new).waiting j + (old.job? == some j).toNat
      = p.waiting j + (new.job? == some j).toNat :=
  countP_hold (fun held => held.job? == some j) new c.nodup hh

/-- A job that is sent gets a new number.  It comes to stand in the queue of one worker, with its
caller waiting for it, or else its caller is done with it at once. -/
theorem moves_send (c : Conserved n p) {h : Nat} {request : EvalRequest}
    (hs : p.send h request = some q) : Moves p q (p.sendDeeds h request) := by
  obtain ⟨slot, k, hh, hk, hq⟩ := send_cases hs
  have hsize : ∀ j, (if j < p.jobs.size + 1 then 1 else 0)
      = (if j < p.jobs.size then 1 else 0) + ((p.jobs.size == j).toNat + 0) := by
    intro j
    by_cases heq : p.jobs.size = j
    · subst heq
      simp
    · rw [beq_false_of_ne heq, Bool.toNat_false, Nat.add_zero, Nat.add_zero]
      by_cases hlt : j < p.jobs.size
      · rw [if_pos hlt, if_pos (Nat.lt_succ_of_lt hlt)]
      · rw [if_neg hlt, if_neg (by omega)]
  rw [sendDeeds_eq hh hk]
  rcases hq with ⟨hgone, rfl⟩ | ⟨hlive, rfl⟩
  · rw [if_pos hgone]
    refine ⟨fun j => ?_, fun j => ?_, fun j => ?_, fun j => ?_⟩
    · rw [countP_cons_toNat, hold_jobs, Array.size_push]
      exact hsize j
    · exact Nat.add_le_add_left (Nat.zero_le _) _
    · exact Nat.le_refl _
    · have hwait : (p.hold h (.held slot .dead)).waiting j = p.waiting j :=
        waiting_hold c (.held slot .dead) hh j
      show (p.hold h (.held slot .dead)).waiting j + _ ≤ _
      rw [hwait, countP_cons_toNat (Deed.sends j)]
      exact Nat.le_refl _
  · rw [if_neg hlive]
    obtain ⟨l, r, hold, hnew⟩ := split_workers hk
      fun k => { k with queue := k.queue ++ [p.jobs.size] }
    refine ⟨fun j => ?_, fun j => ?_, fun j => ?_, fun j => ?_⟩
    · rw [countP_cons_toNat, hold_jobs]
      show (if j < (p.jobs.push _).size then 1 else 0) = _
      rw [Array.size_push]
      exact hsize j
    · unfold queued
      rw [hold_workers]
      show ((p.workers.modify _ _).toList.flatMap _).count j + 0 ≤ _
      rw [hold, hnew, countP_cons_toNat]
      have hone : [p.jobs.size].count j = (p.jobs.size == j).toNat + 0 := count_cons_toNat _ j []
      have hsends : Deed.sends j (.sent h p.jobs.size request) = (p.jobs.size == j) := rfl
      simp only [List.flatMap_append, List.flatMap_cons, List.count_append, hone, hsends]
      omega
    · unfold running
      rw [hold_workers]
      show (p.workers.modify _ _).toList.countP _ + 0 ≤ _
      rw [hold, hnew, List.countP_append, List.countP_append, countP_cons_toNat, countP_cons_toNat]
      exact Nat.le_refl _
    · have hwait : (p.hold h (.held slot (.running p.jobs.size))).waiting j + 0
          = p.waiting j + (p.jobs.size == j).toNat :=
        waiting_hold c (.held slot (.running p.jobs.size)) hh j
      show (p.hold h (.held slot (.running p.jobs.size))).waiting j + 0 ≤ _
      rw [hwait, countP_cons_toNat (Deed.sends j)]
      exact Nat.le_refl _

/-- A caller that learns what became of its job is done with it. -/
theorem moves_receive (c : Conserved n p) {h : Nat} (hs : p.receive h = some q) :
    Moves p q (p.receiveDeeds h) := by
  obtain ⟨slot, k, job, hh, hjob, hq⟩ := receive_cases hs
  have hidle : ∀ j, (p.hold h (.held slot .idle)).waiting j + (k == j).toNat = p.waiting j :=
    waiting_hold c (.held slot .idle) hh
  have hdead : ∀ j, (p.hold h (.held slot .dead)).waiting j + (k == j).toNat = p.waiting j :=
    waiting_hold c (.held slot .dead) hh
  rw [receiveDeeds_eq hh hjob]
  rcases hq with ⟨o, hreply, rfl⟩ | ⟨t, hreply, rfl⟩ | ⟨hreply, rfl⟩
  · rw [hreply]
    exact moves_of_caller rfl (.of_eq rfl) (fun _ => ⟨rfl, rfl, rfl⟩)
      fun j => Nat.le_of_eq (hidle j)
  · rw [hreply]
    exact moves_of_caller rfl (.of_eq rfl) (fun _ => ⟨rfl, rfl, rfl⟩)
      fun j => Nat.le_of_eq (hidle j)
  · rw [hreply]
    exact moves_of_caller rfl (.of_eq rfl) (fun _ => ⟨rfl, rfl, rfl⟩)
      fun j => Nat.le_of_eq (hdead j)

/-- A caller that goes while it waits for its job gives it up. -/
theorem moves_dropHandle (c : Conserved n p) {h : Nat} (hs : p.dropHandle h = some q) :
    Moves p q (p.dropDeeds h) := by
  obtain ⟨slot, state, hh, hq⟩ := dropHandle_cases hs
  have hwait := waiting_hold c .dropped hh
  rw [dropDeeds_eq hh]
  rcases hq with ⟨rfl, rfl⟩ | ⟨k, rfl, rfl⟩ | ⟨rfl, rfl⟩
  · exact moves_of_caller rfl (.of_eq rfl) (fun _ => ⟨rfl, rfl, rfl⟩)
      fun j => Nat.le_of_eq (hwait j)
  · exact moves_of_caller Array.size_modify (.of_eq rfl) (fun _ => ⟨rfl, rfl, rfl⟩)
      fun j => Nat.le_of_eq (hwait j)
  · exact moves_of_caller rfl (.push rfl) (fun _ => ⟨rfl, rfl, rfl⟩)
      fun j => Nat.le_of_eq (hwait j)

theorem moves_start {w : Nat} (hs : p.start w = some q) : Moves p q (p.startDeeds w) := by
  obtain ⟨own, k, queue, hk, rfl⟩ := start_cases hs
  rw [startDeeds_eq hk]
  refine moves_of_worker rfl rfl rfl hk (fun _ => ⟨rfl, rfl⟩) (fun j => ?_) fun j => ?_
  · rw [countP_cons_toNat (Deed.begins j)]
    show queue.count j + _ ≤ (k :: queue).count j
    rw [count_cons_toNat]
    exact Nat.le_of_eq (Nat.add_comm _ _)
  · rw [countP_cons_toNat (Deed.begins j)]
    exact Nat.le_of_eq (Nat.add_comm _ _)

theorem moves_finish {w : Nat} {cancelAt : Option Nat} (hs : p.finish w cancelAt = some q) :
    Moves p q (p.finishDeeds w cancelAt) := by
  obtain ⟨own, queue, k, job, hk, hjob, -, -, rfl⟩ := finish_cases hs
  rw [finishDeeds_eq hk hjob]
  unfold Pool.reply
  refine moves_of_worker Array.size_modify rfl rfl hk (fun _ => ⟨rfl, rfl⟩)
    (fun j => Nat.le_refl _) fun j => ?_
  rw [countP_cons_toNat (Deed.answers j)]
  exact Nat.le_of_eq (Nat.add_comm _ _)

theorem size_closed (queue : List Nat) :
    ∀ jobs : Array Job, (closed queue jobs).size = jobs.size := by
  induction queue with
  | nil => exact fun _ => rfl
  | cons k rest ih => exact fun jobs => (ih _).trans Array.size_modify

/-- **Every step moves jobs on in one way.** -/
theorem moves_step? (c : Conserved n p) {e : Event} (hs : p.step? e = some q) :
    Moves p q (p.deeds e) := by
  cases e with
  | send h request => exact moves_send c hs
  | receive h => exact moves_receive c hs
  | dropHandle h => exact moves_dropHandle c hs
  | start w => exact moves_start hs
  | finish w cancelAt => exact moves_finish hs
  | die w =>
      obtain ⟨_, _, _, hk, rfl⟩ := die_cases hs
      exact moves_of_worker Array.size_modify rfl rfl hk (fun _ => ⟨rfl, rfl⟩)
        (fun _ => Nat.le_refl _) fun _ => Nat.zero_le _
  | uncount w =>
      obtain ⟨_, hk, -, rfl⟩ := uncount_cases hs
      exact moves_of_worker rfl rfl rfl hk (fun _ => ⟨rfl, rfl⟩)
        (fun _ => Nat.le_refl _) fun _ => Nat.le_refl _
  | closeQueue w =>
      obtain ⟨_, queue, _, hk, rfl⟩ := closeQueue_cases hs
      exact moves_of_worker (size_closed queue _) rfl rfl hk (fun _ => ⟨rfl, rfl⟩)
        (fun _ => Nat.zero_le _) fun _ => Nat.le_refl _
  | takePermit =>
      obtain ⟨-, rfl⟩ := takePermit_cases hs
      refine moves_of_caller rfl (.of_eq rfl) (fun _ => ⟨rfl, rfl, rfl⟩) fun j => ?_
      unfold waiting
      rw [countP_cons_toNat]
      exact Nat.le_of_eq (Nat.zero_add _)
  | popSlot h =>
      obtain ⟨hh, ⟨slot, _, -, rfl⟩ | ⟨-, rfl⟩⟩ := popSlot_cases hs
      · exact moves_of_caller rfl (.of_eq rfl) (fun _ => ⟨rfl, rfl, rfl⟩)
          fun j => Nat.le_of_eq (waiting_hold c (.held slot .idle) hh j)
      · exact moves_of_caller rfl (.of_eq rfl) (fun _ => ⟨rfl, rfl, rfl⟩)
          fun j => Nat.le_of_eq (waiting_hold c .refused hh j)
  | returnPermit h =>
      obtain ⟨-, rfl⟩ := returnPermit_cases hs
      exact moves_of_caller rfl (.of_eq rfl) (fun _ => ⟨rfl, rfl, rfl⟩)
        fun j => List.filter_sublist.countP_le

theorem tallied_new (size : Nat) (i : Interpreter) : Tallied (new size i) [] where
  sent := fun _ => rfl
  begun := fun j => by
    have hnone : ∀ k ∈ List.replicate size (Worker.new i), k.queue = [] :=
      fun k hk => by rw [List.eq_of_mem_replicate hk]; rfl
    show ((Array.replicate size (Worker.new i)).toList.flatMap _).count j + 0 ≤ 0
    rw [Array.toList_replicate, List.flatMap_eq_nil_iff.mpr hnone]
    exact Nat.le_refl 0
  answered := fun j => by
    show (Array.replicate size (Worker.new i)).toList.countP _ + 0 ≤ 0
    rw [Array.toList_replicate]
    exact Nat.le_of_eq (by simp [Worker.new])
  settled := fun _ => Nat.le_refl _

/-! ### What the counts tell -/

/-- Of what happens once there is one. -/
theorem eq_of_countP_le_one {α : Type} {f : α → Bool} {a b : α} : ∀ {xs : List α},
    xs.countP f ≤ 1 → a ∈ xs → b ∈ xs → f a = true → f b = true → a = b := by
  intro xs
  induction xs with
  | nil => exact fun _ ha => by cases ha
  | cons x xs ih =>
      intro hcount ha hb hfa hfb
      rw [countP_cons_toNat] at hcount
      have hnone : ∀ c ∈ xs, f x = true → f c ≠ true := fun c hc hx hfc => by
        have hpos := List.countP_pos_iff.mpr ⟨c, hc, hfc⟩
        rw [hx, Bool.toNat_true] at hcount
        omega
      rcases List.mem_cons.mp ha with rfl | ha'
      · rcases List.mem_cons.mp hb with rfl | hb'
        · rfl
        · exact absurd hfb (hnone b hb' hfa)
      · rcases List.mem_cons.mp hb with rfl | hb'
        · exact absurd hfa (hnone a ha' hfb)
        · exact ih (by omega) ha' hb' hfa hfb

namespace Tallied

variable {j : Nat}

theorem sent_le (c : Tallied p past) (j : Nat) : past.countP (Deed.sends j) ≤ 1 := by
  rw [c.sent j]
  split
  · exact Nat.le_refl _
  · exact Nat.zero_le _

theorem begun_le (c : Tallied p past) (j : Nat) : past.countP (Deed.begins j) ≤ 1 :=
  Nat.le_trans (Nat.le_add_left _ _) (Nat.le_trans (c.begun j) (c.sent_le j))

theorem answered_le (c : Tallied p past) (j : Nat) : past.countP (Deed.answers j) ≤ 1 :=
  Nat.le_trans (Nat.le_add_left _ _) (Nat.le_trans (c.answered j) (c.begun_le j))

theorem settled_le (c : Tallied p past) (j : Nat) : past.countP (Deed.settles j) ≤ 1 :=
  Nat.le_trans (Nat.le_add_left _ _) (Nat.le_trans (c.settled j) (c.sent_le j))

/-- The number of a job tells who sent it, and what for. -/
theorem sent_unique (c : Tallied p past) {h k : Nat} {request request' : EvalRequest}
    (hh : .sent h j request ∈ past) (hk : .sent k j request' ∈ past) :
    h = k ∧ request = request' := by
  have heq := eq_of_countP_le_one (c.sent_le j) hh hk (beq_self_eq_true j) (beq_self_eq_true j)
  cases heq
  exact ⟨rfl, rfl⟩

theorem lt_of_sent (c : Tallied p past) {h : Nat} {request : EvalRequest}
    (hh : .sent h j request ∈ past) : j < p.jobs.size := by
  have hpos : 0 < past.countP (Deed.sends j) :=
    List.countP_pos_iff.mpr ⟨_, hh, beq_self_eq_true j⟩
  rw [c.sent j] at hpos
  by_contra hge
  rw [if_neg hge] at hpos
  cases hpos

/-- Nobody is told anything about a job that was given up. -/
theorem not_told_of_abandoned (c : Tallied p past) {h k : Nat} {outcome : Except Trouble Outcome}
    (habandoned : .abandoned h j ∈ past) : .told k j outcome ∉ past := by
  intro htold
  have heq := eq_of_countP_le_one (c.settled_le j) habandoned htold (beq_self_eq_true j)
    (beq_self_eq_true j)
  cases heq

end Tallied

end Lookout.Pool
