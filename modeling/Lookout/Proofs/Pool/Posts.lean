/-
Every worker that takes jobs has a slot of its own.

A slot names its worker, and a worker that died is replaced by one that no slot has named before.
So no two slots share a worker, and a worker without a slot has died.  That alone is not kept by
the steps of a pool: a slot gets another worker when its handle is known to be dead, so one has to
know that a handle comes to be dead only after its worker did.  A handle learns it from its job, and
the job is with the worker of the slot and with no other.

`Attended` joins these facts.  It is about where jobs are: what is with a worker was either given up
or is waited for by the handle of its slot, behind everything else there; and a job that a handle
waits for is with that worker as long as it has no reply.
-/
import Lookout.Proofs.Pool.Replies

namespace Lookout.Pool

open Script (Interpreter Outcome Trouble)

/-- Whether a handle holds a slot with a worker. -/
def Holding.uses (w : Nat) : Holding → Bool
  | held slot _ => slot.worker == w
  | _ => false

@[simp] theorem uses_held (w : Nat) (slot : Slot) (state : SlotState) :
    (Holding.held slot state).uses w = (slot.worker == w) := rfl
@[simp] theorem uses_permitted (w : Nat) : Holding.permitted.uses w = false := rfl
@[simp] theorem uses_dropped (w : Nat) : Holding.dropped.uses w = false := rfl

/-- How many slots have a worker, free ones and held ones. -/
def posts (p : Pool) (w : Nat) : Nat :=
  p.free.countP (·.worker == w) + p.handles.countP (·.2.uses w)

/-- The jobs that are with a worker: the one it is at and those in its queue. -/
def Worker.jobs (k : Worker) : List Nat :=
  k.current.toList ++ k.queue

/-- Whether a worker takes jobs. -/
def works (w : Nat) (p : Pool) : Prop :=
  ∃ k, p.workers[w]? = some k ∧ k.phase = .working

/-- Whether a job is with a worker. -/
def has (w j : Nat) (p : Pool) : Prop :=
  ∃ k, p.workers[w]? = some k ∧ j ∈ k.jobs

variable {n : Nat} {i : Interpreter} {p q : Pool} {past : List Deed}

/-! ### One worker changed -/

section OneWorker

variable {v w : Nat} {k : Worker} {f : Worker → Worker}

theorem works_iff (hk : p.workers[w]? = some k) : p.works w ↔ k.phase = .working := by
  unfold works
  simp [hk]

theorem has_iff {j : Nat} (hk : p.workers[w]? = some k) : p.has w j ↔ j ∈ k.jobs := by
  unfold has
  simp [hk]

theorem works_modifyWorker (hk : p.workers[w]? = some k) :
    (p.modifyWorker w f).works v ↔ if w = v then (f k).phase = .working else p.works v := by
  show (∃ l, (p.workers.modify w f)[v]? = some l ∧ l.phase = .working) ↔ _
  rw [Array.getElem?_modify]
  by_cases hw : w = v
  · subst hw
    simp [hk]
  · rw [if_neg hw, if_neg hw]
    rfl

theorem has_modifyWorker {j : Nat} (hk : p.workers[w]? = some k) :
    (p.modifyWorker w f).has v j ↔ if w = v then j ∈ (f k).jobs else p.has v j := by
  show (∃ l, (p.workers.modify w f)[v]? = some l ∧ j ∈ l.jobs) ↔ _
  rw [Array.getElem?_modify]
  by_cases hw : w = v
  · subst hw
    simp [hk]
  · rw [if_neg hw, if_neg hw]
    rfl

/-- A worker that keeps its jobs, in whatever place. -/
theorem has_modifyWorker_of_jobs {j : Nat} (hk : p.workers[w]? = some k)
    (hjobs : (f k).jobs = k.jobs) : (p.modifyWorker w f).has v j ↔ p.has v j := by
  rw [has_modifyWorker hk]
  split
  · case isTrue hw =>
    subst hw
    rw [hjobs, has_iff hk]
  · exact Iff.rfl

end OneWorker

/-! ### A job is with one worker -/

theorem count_jobs (j : Nat) : ∀ ks : List Worker, (ks.flatMap Worker.jobs).count j
    = (ks.flatMap Worker.queue).count j + ks.countP fun k => k.current == some j := by
  intro ks
  induction ks with
  | nil => rfl
  | cons k ks ih =>
      have hown : k.jobs.count j = k.queue.count j + (k.current == some j).toNat := by
        unfold Worker.jobs
        cases k.current with
        | none => simp
        | some c => exact (count_cons_toNat c j k.queue).trans (Nat.add_comm _ _)
      rw [List.flatMap_cons, List.flatMap_cons, List.count_append, List.count_append, ih, hown,
        countP_cons_toNat]
      omega

theorem Tallied.jobs_nodup (c : Tallied p past) :
    (p.workers.toList.flatMap Worker.jobs).Nodup := by
  refine List.nodup_iff_count_le_one.mpr fun j => ?_
  have hqueued := c.begun j
  have hrunning := c.answered j
  have hsent := c.sent_le j
  unfold queued at hqueued
  unfold running at hrunning
  rw [count_jobs]
  omega

theorem Tallied.jobs_nodup_of_worker (c : Tallied p past) {w : Nat} {k : Worker}
    (hk : p.workers[w]? = some k) : k.jobs.Nodup := by
  have hmem : k ∈ p.workers.toList := by
    rw [← Array.getElem?_toList] at hk
    exact List.mem_of_getElem? hk
  exact (List.nodup_flatMap.mp c.jobs_nodup).1 k hmem

theorem Tallied.has_unique (c : Tallied p past) {v w j : Nat} (hv : p.has v j) (hw : p.has w j) :
    v = w := by
  obtain ⟨k, hk, hjk⟩ := hv
  obtain ⟨l, hl, hjl⟩ := hw
  obtain ⟨hvlt, rfl⟩ := Array.getElem?_eq_some_iff.mp hk
  obtain ⟨hwlt, rfl⟩ := Array.getElem?_eq_some_iff.mp hl
  have hapart := List.pairwise_iff_getElem.mp (List.nodup_flatMap.mp c.jobs_nodup).2
  rcases Nat.lt_trichotomy v w with hlt | heq | hlt
  · exact absurd hjl (hapart v w hvlt hwlt hlt hjk)
  · exact heq
  · exact absurd hjk (hapart w v hwlt hvlt hlt hjl)

/-! ### The invariant -/

/-- Where workers and jobs are. -/
structure Attended (p : Pool) : Prop where
  /-- No two slots share a worker. -/
  posted : ∀ w, p.posts w ≤ 1
  /-- The worker of every slot is there. -/
  present : ∀ w, p.workers.size ≤ w → p.posts w = 0
  /-- Every worker that takes jobs has a slot. -/
  retired : ∀ w, p.works w → 0 < p.posts w
  /-- A worker that died is at no job, and once it is gone it has none. -/
  orderly : ∀ (w : Nat) (k : Worker), p.workers[w]? = some k →
    (k.phase ≠ .working → k.current = none) ∧ (k.phase = .gone → k.queue = [])
  /-- A job that is with a worker has no reply yet, and was given up unless the handle of the
  worker's slot waits for it. -/
  kept : ∀ w j, p.has w j → ∃ job, p.jobs[j]? = some job ∧ job.reply = .waiting ∧
    (job.cancelled = true ∨ ∃ e ∈ p.handles, ∃ slot, e.2 = .held slot (.running j) ∧
      slot.worker = w)
  /-- A job that a handle waits for is with the worker of its slot until it has a reply, which is
  not missing as long as that worker takes jobs. -/
  awaited : ∀ e ∈ p.handles, ∀ slot j, e.2 = .held slot (.running j) →
    ∃ job, p.jobs[j]? = some job ∧ (job.reply = .waiting → p.has slot.worker j) ∧
      (job.reply = .closed → ¬ p.works slot.worker)
  /-- It is behind everything else there. -/
  last : ∀ e ∈ p.handles, ∀ slot j, e.2 = .held slot (.running j) →
    ∀ k, p.has slot.worker k → k ≤ j
  /-- The worker of a slot that is known to be dead is. -/
  dead : ∀ e ∈ p.handles, ∀ slot, e.2 = .held slot .dead → ¬ p.works slot.worker

namespace Attended

/-! ### What the invariant tells -/

/-- Two handles with one worker are one handle. -/
theorem eq_of_uses (a : Attended p) {e d : Nat × Holding} (he : e ∈ p.handles) (hd : d ∈ p.handles)
    {w : Nat} (hew : e.2.uses w = true) (hdw : d.2.uses w = true) : e = d := by
  have hposted := a.posted w
  unfold posts at hposted
  exact eq_of_countP_le_one (f := fun e : Nat × Holding => e.2.uses w) (by omega) he hd hew hdw

/-- The worker of a slot that a handle holds is not that of a free slot. -/
theorem ne_of_free (a : Attended p) {e : Nat × Holding} (he : e ∈ p.handles) {free : Slot}
    (hfree : free ∈ p.free) : e.2.uses free.worker = false := by
  by_contra huses
  have hposted := a.posted free.worker
  have hfreePos : 0 < p.free.countP (·.worker == free.worker) :=
    List.countP_pos_iff.mpr ⟨free, hfree, beq_self_eq_true _⟩
  have hheldPos : 0 < p.handles.countP (·.2.uses free.worker) :=
    List.countP_pos_iff.mpr ⟨e, he, by simpa using huses⟩
  unfold posts at hposted
  omega

/-- A job that a handle waits for is with no worker but that of its slot. -/
theorem owner (a : Attended p) (c : Isolated i p) (hn : (p.handles.map (·.1)).Nodup)
    {e : Nat × Holding} (he : e ∈ p.handles) {slot : Slot} {w j : Nat}
    (hwaits : e.2 = .held slot (.running j)) (hw : p.has w j) : slot.worker = w := by
  obtain ⟨job, hjob, -, hcancelled | ⟨d, hd, slot', hd', hslot⟩⟩ := a.kept w j hw
  · obtain ⟨awaited, hawaited, hlive⟩ := c.awaited e he j (by rw [hwaits]; rfl)
    obtain rfl : awaited = job := Option.some.inj (hawaited.symm.trans hjob)
    rw [hlive] at hcancelled
    cases hcancelled
  · have hkey := c.unshared e he d hd j (by rw [hwaits]; rfl) (by rw [hd']; rfl)
    obtain rfl : e = d := List.inj_on_of_nodup_map hn he hd hkey
    rw [hwaits] at hd'
    cases hd'
    exact hslot

/-- Nobody waits for a job that is with a worker and was given up, and whoever waits for one has
the slot of that worker. -/
theorem cancelled_or_own (a : Attended p) {e : Nat × Holding} (he : e ∈ p.handles) {slot : Slot}
    {state : SlotState} (hheld : e.2 = .held slot state) {j : Nat}
    (hw : p.has slot.worker j) :
    (∃ job, p.jobs[j]? = some job ∧ job.cancelled = true) ∨ state = .running j := by
  obtain ⟨job, hjob, -, hcancelled | ⟨d, hd, slot', hd', hslot⟩⟩ := a.kept _ j hw
  · exact Or.inl ⟨job, hjob, hcancelled⟩
  · refine Or.inr ?_
    obtain rfl : e = d := a.eq_of_uses he hd (w := slot.worker) (by rw [hheld]; simp)
      (by rw [hd']; simpa using hslot)
    rw [hheld] at hd'
    cases hd'
    rfl

/-- A job that has a reply is with no worker. -/
theorem not_has_of_reply (a : Attended p) {j w : Nat} {job : Job} (hjob : p.jobs[j]? = some job)
    (hreply : job.reply ≠ .waiting) : ¬ p.has w j := by
  intro hw
  obtain ⟨kept, hkept, hwaiting, -⟩ := a.kept w j hw
  obtain rfl : kept = job := Option.some.inj (hkept.symm.trans hjob)
  exact hreply hwaiting

/-! ### Changes of one kind -/

/-- Only slots, handles, workers and jobs matter. -/
theorem of_eq (a : Attended p) (hfree : q.free = p.free) (hhandles : q.handles = p.handles)
    (hworkers : q.workers = p.workers) (hjobs : q.jobs = p.jobs) : Attended q := by
  obtain ⟨_, _, _, _, _, _, _, _, _, _⟩ := p
  obtain ⟨_, _, _, _, _, _, _, _, _, _⟩ := q
  cases hfree
  cases hhandles
  cases hworkers
  cases hjobs
  exact ⟨a.posted, a.present, a.retired, a.orderly, a.kept, a.awaited, a.last, a.dead⟩

/-- A handle comes to hold something else that it does not wait for, and the free slots change with
it.  No worker that takes jobs loses its slot. -/
theorem hold (a : Attended p) (hn : (p.handles.map (·.1)).Nodup) {h : Nat} {old : Holding}
    (new : Holding) (free : List Slot) (hh : p.holding? h = some old)
    (hle : ∀ w, free.countP (·.worker == w) + (new.uses w).toNat
      ≤ p.free.countP (·.worker == w) + (old.uses w).toNat)
    (hge : ∀ w, p.works w → p.free.countP (·.worker == w) + (old.uses w).toNat
      ≤ free.countP (·.worker == w) + (new.uses w).toNat)
    (hold : ∀ slot j, old = .held slot (.running j) → ∀ w, p.has w j →
      ∃ job, p.jobs[j]? = some job ∧ job.cancelled = true)
    (hnew : ∀ slot state, new = .held slot state →
      state = .idle ∨ state = .dead ∧ ¬ p.works slot.worker) :
    Attended (({ p with free := free } : Pool).hold h new) := by
  have hcount : ∀ w, (({ p with free := free } : Pool).hold h new).posts w
      + (p.free.countP (·.worker == w) + (old.uses w).toNat)
        = p.posts w + (free.countP (·.worker == w) + (new.uses w).toNat) := by
    intro w
    have hmoved : _ = p.handles.countP (fun e => e.2.uses w) + _ :=
      countP_hold (p := { p with free := free }) (Holding.uses w) new hn hh
    unfold posts
    show free.countP _ + _ + _ = _
    omega
  -- who waits for a job afterwards has waited for it before
  have hother : ∀ e ∈ (({ p with free := free } : Pool).hold h new).handles, ∀ slot j,
      e.2 = .held slot (.running j) → e ∈ p.handles := by
    intro e he slot j hwaits
    rcases mem_hold he with rfl | ⟨hmem, -⟩
    · rcases hnew slot _ hwaits with hc | ⟨hc, -⟩
      · cases hc
      · cases hc
    · exact hmem
  refine ⟨fun w => ?_, fun w hw => ?_, fun w hw => ?_, a.orderly, fun w j hw => ?_,
    fun e he slot j hwaits => a.awaited e (hother e he slot j hwaits) slot j hwaits,
    fun e he slot j hwaits => a.last e (hother e he slot j hwaits) slot j hwaits, ?_⟩
  · have := hcount w
    have := hle w
    have := a.posted w
    omega
  · have := hcount w
    have := hle w
    have : p.posts w = 0 := a.present w hw
    omega
  · have := hcount w
    have := hge w hw
    have : 0 < p.posts w := a.retired w hw
    omega
  · obtain ⟨job, hjob, hwaiting, hcancelled | ⟨e, he, slot, hwaits, hslot⟩⟩ := a.kept w j hw
    · exact ⟨job, hjob, hwaiting, Or.inl hcancelled⟩
    · by_cases heq : e.1 = h
      · have hold' : old = .held slot (.running j) := by
          have hfound := holding_of_mem hn (show (h, e.2) ∈ p.handles by rw [← heq]; exact he)
          rw [hh] at hfound
          rw [Option.some.inj hfound]
          exact hwaits
        obtain ⟨job', hjob', hcancelled⟩ := hold slot j hold' w hw
        obtain rfl : job = job' := Option.some.inj (hjob.symm.trans hjob')
        exact ⟨job, hjob, hwaiting, Or.inl hcancelled⟩
      · refine ⟨job, hjob, hwaiting, Or.inr ⟨e, ?_, slot, hwaits, hslot⟩⟩
        exact List.mem_map.mpr ⟨e, he, if_neg heq⟩
  · intro e he slot hdead
    rcases mem_hold he with rfl | ⟨hmem, -⟩
    · rcases hnew slot _ hdead with hc | ⟨-, hgone⟩
      · cases hc
      · exact hgone
    · exact a.dead e hmem slot hdead

/-- A handle that uses its slot in another way keeps it. -/
theorem hold_held (a : Attended p) (hn : (p.handles.map (·.1)).Nodup) {h : Nat} {slot : Slot}
    {old : SlotState} (new : SlotState) (hh : p.holding? h = some (.held slot old))
    (hold : ∀ j, old = .running j → ∀ w, ¬ p.has w j)
    (hnew : new = .idle ∨ new = .dead ∧ ¬ p.works slot.worker) :
    Attended (p.hold h (.held slot new)) := by
  refine a.hold hn _ p.free hh (fun _ => Nat.le_refl _) (fun _ _ => Nat.le_refl _) ?_ ?_
  · intro slot' j heq w hw
    cases heq
    exact absurd hw (hold j rfl w)
  · intro slot' state heq
    cases heq
    exact hnew

/-- A step of a worker that leaves the ledger alone: jobs may go from workers, and get replies as
they go; one that is left without an answer was with a worker that takes no jobs from then on. -/
theorem of_worker (a : Attended p) (c : Isolated i p) (hn : (p.handles.map (·.1)).Nodup)
    (hl : SameLedger p q) (hsize : q.workers.size = p.workers.size)
    (horderly : ∀ (w : Nat) (k : Worker), q.workers[w]? = some k →
      (k.phase ≠ .working → k.current = none) ∧ (k.phase = .gone → k.queue = []))
    (hworks : ∀ w, q.works w → p.works w)
    (hhas : ∀ w j, q.has w j → p.has w j ∧ q.jobs[j]? = p.jobs[j]?)
    (hjobs : ∀ (j : Nat) (job : Job), p.jobs[j]? = some job → ∃ later, q.jobs[j]? = some later ∧
      (later = job ∧ (∀ w, p.has w j → q.has w j) ∨
        later.reply ≠ .waiting ∧ (later.reply = .closed → ∃ w, p.has w j ∧ ¬ q.works w))) :
    Attended q := by
  have hposts : ∀ w, q.posts w = p.posts w := by
    intro w
    unfold posts
    rw [hl.free, hl.handles]
  refine ⟨fun w => ?_, fun w hw => ?_, fun w hw => ?_, horderly, fun w j hw => ?_,
    fun e he slot j hwaits => ?_, fun e he slot j hwaits k hk => ?_, fun e he slot hdead hw => ?_⟩
  · rw [hposts]
    exact a.posted w
  · rw [hposts]
    exact a.present w (hsize ▸ hw)
  · rw [hposts]
    exact a.retired w (hworks w hw)
  · rw [hl.handles, (hhas w j hw).2]
    exact a.kept w j (hhas w j hw).1
  · rw [hl.handles] at he
    obtain ⟨job, hjob, hwaiting, hclosed⟩ := a.awaited e he slot j hwaits
    obtain ⟨later, hlater, ⟨rfl, hstays⟩ | ⟨hreplied, hlost⟩⟩ := hjobs j job hjob
    · exact ⟨later, hlater, fun hr => hstays _ (hwaiting hr), fun hr hw => hclosed hr (hworks _ hw)⟩
    · refine ⟨later, hlater, fun hr => absurd hr hreplied, fun hr hw => ?_⟩
      obtain ⟨w, hhad, hgone⟩ := hlost hr
      rw [a.owner c hn he hwaits hhad] at hw
      exact hgone hw
  · rw [hl.handles] at he
    exact a.last e he slot j hwaits k (hhas _ k hk).1
  · rw [hl.handles] at he
    exact a.dead e he slot hdead (hworks _ hw)

end Attended

end Lookout.Pool
