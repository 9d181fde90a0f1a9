/-
How many workers a pool has.

A pool of `n` slots has at most `n` workers that take jobs, since each of them has a slot and no two
have the same one.  What it counts as live is more than that: a worker that dies is counted until it
has let go of its interpreter, and before that its caller can have learned of its death and given
the slot to a new worker.  So the count is kept under `n` by the slots only as far as the workers
that are dying still have theirs, and each one that has been replaced can come on top.

There is no bound beyond that: callers that are always faster than the workers they replace can
raise the count as far as they like.
-/
import Mathlib.Data.List.Perm.Subperm
import Lookout.Proofs.Pool.Attended
import Lookout.Proofs.Pool.Evaluate

namespace Lookout.Pool

open Script (Interpreter)

/-- How many workers are in a phase. -/
def inPhase (phase : WorkerPhase) (p : Pool) : Nat :=
  p.workers.toList.countP (·.phase = phase)

/-- Whether a worker is in a phase. -/
def isIn (phase : WorkerPhase) (p : Pool) (w : Nat) : Bool :=
  (p.workers[w]?).any (·.phase = phase)

/-- How many workers are dying although their slot has been given to another one. -/
def replaced (p : Pool) : Nat :=
  (List.range p.workers.size).countP fun w => p.isIn .dying w && p.posts w = 0

variable {n : Nat} {i : Interpreter} {p q : Pool} {past : List Deed}

/-! ### The count -/

theorem inPhase_modifyWorker {w : Nat} {k : Worker} {f : Worker → Worker} (phase : WorkerPhase)
    (hk : p.workers[w]? = some k) :
    (p.modifyWorker w f).inPhase phase + (decide (k.phase = phase)).toNat
      = p.inPhase phase + (decide ((f k).phase = phase)).toNat := by
  obtain ⟨l, r, hold, hnew⟩ := split_workers hk f
  unfold inPhase
  show (p.workers.modify w f).toList.countP _ + _ = _
  rw [hnew, hold]
  simp only [List.countP_append, countP_cons_toNat]
  omega

/-- The workers that count as live are those that take jobs and those that are dying. -/
def Counted (p : Pool) : Prop :=
  p.live = p.inPhase .working + p.inPhase .dying

theorem Counted.of_eq (c : Counted p) (hlive : q.live = p.live) (hworkers : q.workers = p.workers) :
    Counted q := by
  unfold Counted inPhase
  rw [hlive, hworkers]
  exact c

theorem Counted.modifyWorker (c : Counted p) {w : Nat} {k : Worker} {f : Worker → Worker}
    (hk : p.workers[w]? = some k)
    (hf : (decide (k.phase = .working)).toNat + (decide (k.phase = .dying)).toNat
      = (decide ((f k).phase = .working)).toNat + (decide ((f k).phase = .dying)).toNat) :
    Counted (p.modifyWorker w f) := by
  have hworking := inPhase_modifyWorker (f := f) .working hk
  have hdying := inPhase_modifyWorker (f := f) .dying hk
  unfold Counted at c ⊢
  show p.live = _
  omega

theorem Counted.step? (c : Counted p) {e : Event} (hs : p.step? e = some q) : Counted q := by
  cases e with
  | start w =>
      obtain ⟨_, _, _, hk, rfl⟩ := start_cases hs
      exact c.modifyWorker hk rfl
  | finish w cancelAt =>
      obtain ⟨_, _, _, _, hk, _, _, _, rfl⟩ := finish_cases hs
      exact (c.of_eq (q := p.modifyJob _ _) rfl rfl).modifyWorker hk rfl
  | die w =>
      obtain ⟨_, _, _, hk, rfl⟩ := die_cases hs
      exact (c.of_eq (q := p.modifyJob _ _) rfl rfl).modifyWorker hk rfl
  | uncount w =>
      obtain ⟨k, hk, hphase, rfl⟩ := uncount_cases hs
      have hworking := inPhase_modifyWorker (f := fun k => { k with phase := .uncounted })
        .working hk
      have hdying := inPhase_modifyWorker (f := fun k => { k with phase := .uncounted }) .dying hk
      rw [hphase] at hworking hdying
      unfold Counted at c ⊢
      show p.live - 1 = (p.modifyWorker w _).inPhase .working + (p.modifyWorker w _).inPhase .dying
      simp at hworking hdying
      omega
  | closeQueue w =>
      obtain ⟨_, queue, _, hk, rfl⟩ := closeQueue_cases hs
      exact (c.of_eq (q := { p with jobs := closed queue p.jobs }) rfl rfl).modifyWorker hk rfl
  | send h request =>
      obtain ⟨_, k, _, hk, ⟨_, rfl⟩ | ⟨_, rfl⟩⟩ := send_cases hs
      · exact c.of_eq rfl rfl
      · have hsent := (c.of_eq (q := { p with jobs := p.jobs.push ⟨request, false, .waiting⟩ }) rfl
          rfl).modifyWorker (f := fun w => { w with queue := w.queue ++ [p.jobs.size] }) hk rfl
        exact hsent.of_eq rfl rfl
  | dropHandle h =>
      obtain ⟨_, _, _, ⟨_, rfl⟩ | ⟨_, _, rfl⟩ | ⟨_, rfl⟩⟩ := dropHandle_cases hs
      · exact c.of_eq rfl rfl
      · exact c.of_eq rfl rfl
      · unfold Counted inPhase at c ⊢
        show p.live + 1 = (p.workers.push _).toList.countP _ + (p.workers.push _).toList.countP _
        rw [Array.toList_push, List.countP_append, List.countP_append, c]
        simp [Worker.new]
        omega
  | takePermit =>
      obtain ⟨-, rfl⟩ := takePermit_cases hs
      exact c.of_eq rfl rfl
  | popSlot h =>
      obtain ⟨-, ⟨_, _, -, rfl⟩ | ⟨-, rfl⟩⟩ := popSlot_cases hs
      · exact c.of_eq rfl rfl
      · exact c.of_eq rfl rfl
  | receive h =>
      obtain ⟨_, _, _, -, -, ⟨_, -, rfl⟩ | ⟨_, -, rfl⟩ | ⟨-, rfl⟩⟩ := receive_cases hs
      · exact c.of_eq rfl rfl
      · exact c.of_eq rfl rfl
      · exact c.of_eq rfl rfl
  | returnPermit h =>
      obtain ⟨-, rfl⟩ := returnPermit_cases hs
      exact c.of_eq rfl rfl

theorem counted_new (size : Nat) (i : Interpreter) : Counted (new size i) := by
  unfold Counted inPhase
  show size = (Array.replicate size (Worker.new i)).toList.countP _
    + (Array.replicate size (Worker.new i)).toList.countP _
  rw [Array.toList_replicate]
  simp [List.countP_replicate, Worker.new]

theorem counted_of_steps? {size : Nat} {es : List Event} (hs : (new size i).steps? es = some p) :
    Counted p :=
  steps?_induct (fun _ _ _ hc hstep => hc.step? hstep) es (counted_new size i) hs

/-! ### The slots -/

/-- The worker of the slot that a handle holds. -/
def Holding.worker? : Holding → Option Nat
  | held slot _ => some slot.worker
  | _ => none

/-- The workers of all slots, free and held. -/
def crew (p : Pool) : List Nat :=
  p.free.map (·.worker) ++ p.handles.filterMap (·.2.worker?)

theorem mem_crew {w : Nat} (hw : 0 < p.posts w) : w ∈ p.crew := by
  have hsplit : 0 < p.free.countP (·.worker == w) ∨ 0 < p.handles.countP (·.2.uses w) := by
    unfold posts at hw
    omega
  rcases hsplit with hfree | hheld
  · obtain ⟨slot, hslot, hworker⟩ := List.countP_pos_iff.mp hfree
    exact List.mem_append_left _ (List.mem_map.mpr ⟨slot, hslot, eq_of_beq hworker⟩)
  · obtain ⟨e, he, huses⟩ := List.countP_pos_iff.mp hheld
    refine List.mem_append_right _ (List.mem_filterMap.mpr ⟨e, he, ?_⟩)
    revert huses
    cases e.2 with
    | held slot state => exact fun huses => congrArg some (eq_of_beq huses)
    | _ => exact fun huses => by cases huses

/-- There are as many workers with slots as there are slots. -/
theorem Conserved.length_crew (c : Conserved n p) : p.crew.length = n := by
  have hheld : p.handles.countP (fun e => e.2.worker?.isSome) + p.handles.countP (·.2.hasNoSlot)
      = p.handles.length := by
    rw [List.length_eq_countP_add_countP fun e => e.2.worker?.isSome]
    refine congrArg _ (List.countP_congr fun e he => ?_)
    have hgranted := c.granted e he
    revert hgranted
    cases e.2 with
    | refused => exact fun h => absurd rfl h
    | _ => exact fun _ => by simp [Holding.hasNoSlot, Holding.worker?]
  have hpermits := c.permits
  have hfree := c.free
  unfold crew
  rw [List.length_append, List.length_map, List.length_filterMap_eq_countP]
  omega

/-- Workers that are told apart by their numbers, all of them with slots, are at most as many as
there are slots. -/
theorem Conserved.countP_posted_le (c : Conserved n p) (f : Nat → Bool)
    (hf : ∀ w, f w = true → 0 < p.posts w) : (List.range p.workers.size).countP f ≤ n := by
  rw [List.countP_eq_length_filter, ← c.length_crew]
  refine (List.Nodup.subperm (List.nodup_range.filter f) fun w hw => ?_).length_le
  exact mem_crew (hf w (List.mem_filter.mp hw).2)

theorem countP_range (f : Worker → Bool) : ∀ ks : List Worker,
    ks.countP f = (List.range ks.length).countP fun w => (ks[w]?).any f := by
  intro ks
  induction ks with
  | nil => rfl
  | cons k ks ih =>
      rw [countP_cons_toNat, ih, List.length_cons, List.range_succ_eq_map, countP_cons_toNat,
        List.countP_map]
      rfl

/-- The workers that are in a phase, by their numbers. -/
theorem inPhase_eq (phase : WorkerPhase) (p : Pool) :
    p.inPhase phase = (List.range p.workers.size).countP (p.isIn phase) := by
  unfold inPhase isIn
  rw [countP_range]
  simp

theorem isIn_iff {phase : WorkerPhase} {w : Nat} :
    p.isIn phase w = true ↔ ∃ k, p.workers[w]? = some k ∧ k.phase = phase := by
  unfold isIn
  cases p.workers[w]? with
  | none => simp
  | some k => simp

/-- A worker is in one phase. -/
theorem isIn_unique {phase other : WorkerPhase} {w : Nat} (hne : phase ≠ other)
    (hw : p.isIn phase w = true) : p.isIn other w = false := by
  obtain ⟨k, hk, rfl⟩ := isIn_iff.mp hw
  refine Bool.eq_false_iff.mpr fun hother => ?_
  obtain ⟨l, hl, rfl⟩ := isIn_iff.mp hother
  rw [hk] at hl
  exact hne (by rw [Option.some.inj hl])

/-- What is counted by one of two tests that exclude each other, counted with a third one on the
other side. -/
theorem countP_add_countP {α : Type} {f g : α → Bool} (z : α → Bool)
    (hfg : ∀ x, f x = true → g x = false) : ∀ xs : List α, xs.countP f + xs.countP g
      = xs.countP (fun x => f x || (g x && !z x)) + xs.countP fun x => g x && z x := by
  intro xs
  induction xs with
  | nil => rfl
  | cons x xs ih =>
      simp only [countP_cons_toNat]
      have hx := hfg x
      cases hf : f x with
      | true =>
          rw [hx hf]
          simp only [Bool.true_or, Bool.false_and, Bool.toNat_true, Bool.toNat_false]
          omega
      | false =>
          cases g x <;> cases z x <;> simp only [Bool.false_or, Bool.true_and, Bool.false_and,
            Bool.not_true, Bool.not_false, Bool.toNat_true, Bool.toNat_false] <;> omega

/-- **A pool of `n` slots has at most `n` workers that take jobs.**  It counts as live these and the
workers that are dying, of which those that still have their slot do not come on top.  So the count
is above `n` only by workers that were replaced before they had finished dying. -/
theorem live_le {es : List Event} (hs : (new n i).steps? es = some p) :
    p.inPhase .working ≤ n ∧ p.live = p.inPhase .working + p.inPhase .dying ∧
      p.live ≤ n + p.replaced := by
  have c := conserved_of_steps? hs
  have a := attended_of_steps? hs
  have hlive : p.live = _ := counted_of_steps? hs
  have hworks : ∀ w, p.isIn .working w = true → 0 < p.posts w :=
    fun w hw => a.retired w (isIn_iff.mp hw)
  refine ⟨?_, hlive, ?_⟩
  · rw [inPhase_eq]
    exact c.countP_posted_le _ hworks
  · -- a worker that counts has a slot, or is dying without one
    have hposted : (List.range p.workers.size).countP (fun w => p.isIn .working w ||
        (p.isIn .dying w && !decide (p.posts w = 0))) ≤ n := by
      refine c.countP_posted_le _ fun w hw => ?_
      rcases (Bool.or_eq_true _ _).mp hw with hworking | hdying
      · exact hworks w hworking
      · have hnot := ((Bool.and_eq_true _ _).mp hdying).2
        exact Nat.pos_of_ne_zero (by simpa using hnot)
    rw [hlive, inPhase_eq, inPhase_eq, countP_add_countP (fun w => decide (p.posts w = 0))
      fun w hw => isIn_unique (fun h => by cases h) hw]
    exact Nat.add_le_add_right hposted _

/-- A condition that no worker survives. -/
def fatal : EvalRequest :=
  ⟨"'abc'[::-2147483648]", ⟨"a", 0, .null⟩⟩

/-- The worker of the only slot dies, and its caller learns of it and replaces it before it stops
counting. -/
def hasty : List Event :=
  [.takePermit, .popSlot 0, .send 0 fatal, .start 0, .die 0, .receive 0, .dropHandle 0]

theorem live_le_hasty : ∃ p, (new 1 Interpreter.bare).steps? hasty = some p ∧
    p.inPhase .working ≤ 1 ∧ p.inPhase .dying = 1 ∧ p.replaced = 1 ∧ p.live ≤ 1 + p.replaced := by
  obtain ⟨p, hp⟩ : ∃ p, (new 1 Interpreter.bare).steps? hasty = some p := ⟨_, rfl⟩
  have h := live_le hp
  cases hp
  exact ⟨_, rfl, h.1, rfl, rfl, h.2.2⟩

/-- The count of a pool of one slot comes to two, with a condition that really kills its worker. -/
theorem live_over_size : isDeath (Interpreter.bare.run none fatal.script fatal.context).1 = true ∧
    ∃ p, (new 1 Interpreter.bare).steps? hasty = some p ∧ p.size = 1 ∧ p.live = 2 :=
  ⟨by decide +kernel, _, rfl, rfl, rfl⟩

/-! ### There is no other bound -/

/-- A pool at rest is at rest again, with one worker more in its count, when a caller was faster
than the worker that it replaced. -/
theorem AtRest.crowd {top : Nat} (c : AtRest i top p) (request : EvalRequest) :
    ∃ es q, p.steps? es = some q ∧ AtRest i top q ∧ q.live = p.live + 1 := by
  obtain ⟨slot, rest, hfree, -, hw⟩ := c.exists_top
  have hlt := (Array.getElem?_eq_some_iff.mp hw).1
  have hset : ∀ k : Worker, (p.workers.setIfInBounds slot.worker k)[slot.worker]? = some k :=
    fun k => Array.getElem?_setIfInBounds_self_of_lt hlt
  have hpermits := Nat.ne_of_gt c.permits
  have hhandles := c.handles
  have hrest : AtRest i top { p with
      permits := p.permits - 1 + 1
      free := ⟨slot.id, p.workers.size⟩ :: rest
      live := p.live + 1
      workers := (p.workers.setIfInBounds slot.worker ⟨p.fresh, [], none, .dying⟩).push
        (Worker.new p.fresh)
      jobs := p.jobs.push ⟨request, false, .closed⟩
      handles := []
      nextHandle := p.nextHandle + 1
      answers := ⟨p.jobs.size, .error (.stopped slot.id)⟩ :: p.answers } :=
    c.newWorker hfree ⟨p.fresh, [], none, .dying⟩
  refine ⟨[.takePermit, .popSlot p.nextHandle, .send p.nextHandle request, .start slot.worker,
    .die slot.worker, .receive p.nextHandle, .dropHandle p.nextHandle, .returnPermit p.nextHandle],
    _, ?_, hrest, rfl⟩
  simp [steps?, step?, Pool.takePermit, Pool.popSlot, Pool.send, Pool.start, Pool.die, Pool.receive,
    Pool.dropHandle, Pool.returnPermit, holding?, Pool.hold, modifyWorker, modifyJob, hpermits,
    hhandles, hfree, hw, hset, modify_eq_set _ hw, modify_eq_set _ (hset _), modify_push,
    Array.setIfInBounds_setIfInBounds, Worker.new]

/-- **The count of live workers has no bound**: a pool of any size can come to count any number of
workers more than it has slots. -/
theorem live_unbounded (hn : 0 < n) (i : Interpreter) (request : EvalRequest) (m : Nat) :
    ∃ es q, (new n i).steps? es = some q ∧ q.live = n + m := by
  have hcrowd : ∃ es q, (new n i).steps? es = some q ∧ AtRest i (n - 1) q ∧ q.live = n + m := by
    induction m with
    | zero => exact ⟨[], new n i, rfl, atRest_new hn i, rfl⟩
    | succ m ih =>
        obtain ⟨es, q, hes, hrest, hlive⟩ := ih
        obtain ⟨fs, r, hfs, hrest', hlive'⟩ := hrest.crowd request
        refine ⟨es ++ fs, r, ?_, hrest', by omega⟩
        rw [steps?_append, hes]
        exact hfs
  obtain ⟨es, q, hes, -, hlive⟩ := hcrowd
  exact ⟨es, q, hes, hlive⟩

end Lookout.Pool
