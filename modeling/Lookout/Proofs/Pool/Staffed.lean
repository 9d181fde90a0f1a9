/-
Every slot has a worker.

A slot names its worker, and workers are only ever added.  So a job can be sent whenever a slot
is held, to a worker that takes it or to one that is known to be dead from then on; and a handle
that holds a slot can be let go of at any time.
-/
import Lookout.Proofs.Pool.Isolation

namespace Lookout.Pool

open Script (Interpreter)

/-- The worker of every slot, free or held, is there. -/
structure Staffed (p : Pool) : Prop where
  free : ∀ slot ∈ p.free, slot.worker < p.workers.size
  held : ∀ e ∈ p.handles, ∀ slot state, e.2 = .held slot state → slot.worker < p.workers.size

namespace Staffed

variable {p q : Pool} {slot : Slot}

theorem of_sameLedger (c : Staffed p) (h : SameLedger p q)
    (hsize : q.workers.size = p.workers.size) : Staffed q where
  free := by rw [h.free, hsize]; exact c.free
  held := by rw [h.handles, hsize]; exact c.held

/-- A handle may hold something else if that has a worker. -/
theorem hold (c : Staffed p) (h : Nat) {new : Holding}
    (hnew : ∀ slot state, new = .held slot state → slot.worker < p.workers.size) :
    Staffed (p.hold h new) where
  free := c.free
  held := fun e he slot state hheld => by
    rcases mem_hold he with rfl | ⟨hmem, -⟩
    · exact hnew slot state hheld
    · exact c.held e hmem slot state hheld

theorem hold_same (c : Staffed p) {h : Nat} {old : SlotState}
    (hh : p.holding? h = some (.held slot old)) (new : SlotState) :
    Staffed (p.hold h (.held slot new)) :=
  c.hold h fun slot' state heq => by
    cases heq
    exact c.held _ (mem_of_holding hh) slot old rfl

/-- What jobs and answers there are does not matter. -/
theorem hold_told (c : Staffed p) {h : Nat} {old : SlotState}
    (hh : p.holding? h = some (.held slot old)) (new : SlotState) (jobs : Array Job)
    (answers : List Answer) :
    Staffed (({ p with jobs := jobs, answers := answers } : Pool).hold h (.held slot new)) :=
  ⟨(c.hold_same hh new).free, (c.hold_same hh new).held⟩

theorem popSlot (c : Staffed p) {h : Nat} (hs : p.popSlot h = some q) : Staffed q := by
  obtain ⟨-, ⟨slot, rest, hfree, rfl⟩ | ⟨-, rfl⟩⟩ := popSlot_cases hs
  · have hrest : Staffed { p with free := rest } :=
      ⟨fun s hs => c.free s (by rw [hfree]; exact List.mem_cons_of_mem _ hs), c.held⟩
    refine hrest.hold h fun s state heq => ?_
    cases heq
    exact c.free slot (by rw [hfree]; exact List.mem_cons_self)
  · exact c.hold h fun s state heq => by cases heq

theorem send (c : Staffed p) {h : Nat} {request : EvalRequest} (hs : p.send h request = some q) :
    Staffed q := by
  obtain ⟨slot, w, hh, -, ⟨-, rfl⟩ | ⟨-, rfl⟩⟩ := send_cases hs
  · exact c.hold_told hh .dead _ _
  · have hqueued : Staffed (({ p with
        jobs := p.jobs.push ⟨request, false, .waiting⟩ } : Pool).modifyWorker slot.worker
          fun w => { w with queue := w.queue ++ [p.jobs.size] }) :=
      c.of_sameLedger ⟨rfl, rfl, rfl, rfl, rfl⟩ Array.size_modify
    exact hqueued.hold_same hh _

theorem receive (c : Staffed p) {h : Nat} (hs : p.receive h = some q) : Staffed q := by
  obtain ⟨slot, j, job, hh, -, ⟨o, -, rfl⟩ | ⟨t, -, rfl⟩ | ⟨-, rfl⟩⟩ := receive_cases hs
  · exact c.hold_told hh _ _ _
  · exact c.hold_told hh _ _ _
  · exact c.hold_told hh _ _ _

/-- A slot that goes back has the worker it had, or a new one. -/
theorem dropHandle (c : Staffed p) {h : Nat} (hs : p.dropHandle h = some q) : Staffed q := by
  obtain ⟨slot, state, hh, hcases⟩ := dropHandle_cases hs
  have hworker := c.held _ (mem_of_holding hh) slot state rfl
  have hback : Staffed { p with free := slot :: p.free } := by
    refine ⟨fun s hs => ?_, c.held⟩
    rcases List.mem_cons.mp hs with rfl | hs
    · exact hworker
    · exact c.free s hs
  rcases hcases with ⟨-, rfl⟩ | ⟨j, -, rfl⟩ | ⟨-, rfl⟩
  · exact hback.hold h fun s state heq => by cases heq
  · have hgivenUp : Staffed (({ p with free := slot :: p.free } : Pool).modifyJob j fun job =>
        { job with cancelled := true }) := ⟨hback.free, hback.held⟩
    exact hgivenUp.hold h fun s state heq => by cases heq
  · have hgrown : ∀ {w}, w < p.workers.size → w < (p.workers.push (Worker.new p.fresh)).size := by
      intro w hw
      rw [Array.size_push]
      exact Nat.lt_succ_of_lt hw
    have hnew : Staffed { p with
        workers := p.workers.push (Worker.new p.fresh)
        live := p.live + 1
        free := ⟨slot.id, p.workers.size⟩ :: p.free } := by
      refine ⟨fun s hs => ?_, fun e he s state heq => hgrown (c.held e he s state heq)⟩
      rcases List.mem_cons.mp hs with rfl | hs
      · show p.workers.size < _
        rw [Array.size_push]
        exact Nat.lt_succ_self _
      · exact hgrown (c.free s hs)
    exact hnew.hold h fun s state heq => by cases heq

/-- Every step leaves every slot a worker. -/
theorem step? (c : Staffed p) {e : Event} (hs : p.step? e = some q) : Staffed q := by
  cases e with
  | popSlot h => exact c.popSlot hs
  | send h request => exact c.send hs
  | receive h => exact c.receive hs
  | dropHandle h => exact c.dropHandle hs
  | takePermit =>
      obtain ⟨-, rfl⟩ := takePermit_cases hs
      refine ⟨c.free, fun e he slot state heq => ?_⟩
      rcases List.mem_cons.mp he with rfl | he
      · cases heq
      · exact c.held e he slot state heq
  | returnPermit h =>
      obtain ⟨-, rfl⟩ := returnPermit_cases hs
      exact ⟨c.free, fun e he => c.held e (List.mem_of_mem_filter he)⟩
  | start w =>
      obtain ⟨_, _, _, _, rfl⟩ := start_cases hs
      exact c.of_sameLedger ⟨rfl, rfl, rfl, rfl, rfl⟩ Array.size_modify
  | finish w cancelAt =>
      obtain ⟨_, _, _, _, _, _, _, _, rfl⟩ := finish_cases hs
      exact c.of_sameLedger ⟨rfl, rfl, rfl, rfl, rfl⟩ Array.size_modify
  | die w =>
      obtain ⟨_, _, _, _, rfl⟩ := die_cases hs
      exact c.of_sameLedger ⟨rfl, rfl, rfl, rfl, rfl⟩ Array.size_modify
  | uncount w =>
      obtain ⟨_, _, _, rfl⟩ := uncount_cases hs
      exact c.of_sameLedger ⟨rfl, rfl, rfl, rfl, rfl⟩ Array.size_modify
  | closeQueue w =>
      obtain ⟨_, _, _, _, rfl⟩ := closeQueue_cases hs
      exact c.of_sameLedger ⟨rfl, rfl, rfl, rfl, rfl⟩ Array.size_modify

/-- A job can be sent whenever a slot is held that waits for one. -/
theorem send_ok (c : Staffed p) {h : Nat} (hh : p.holding? h = some (.held slot .idle))
    (request : EvalRequest) : ∃ q, p.send h request = some q := by
  have hworker := c.held _ (mem_of_holding hh) slot _ rfl
  unfold Pool.send
  rw [hh]
  dsimp only
  rw [Array.getElem?_eq_getElem hworker, Option.map_some]
  split
  · case _ hnone => cases hnone
  · exact ⟨_, rfl⟩
  · exact ⟨_, rfl⟩

end Staffed

/-- A slot that is held can be let go of, whatever it is used for. -/
theorem dropHandle_ok {p : Pool} {h : Nat} {slot : Slot} {state : SlotState}
    (hh : p.holding? h = some (.held slot state)) : ∃ q, p.dropHandle h = some q := by
  unfold Pool.dropHandle
  rw [hh]
  cases state with
  | idle => exact ⟨_, rfl⟩
  | running j => exact ⟨_, rfl⟩
  | dead => exact ⟨_, rfl⟩

theorem staffed_new (size : Nat) (i : Interpreter) : Staffed (new size i) where
  free := fun slot hs => by
    obtain ⟨w, hw, rfl⟩ := List.mem_map.mp (List.mem_reverse.mp hs)
    show w < (Array.replicate size (Worker.new i)).size
    rw [Array.size_replicate]
    exact List.mem_range.mp hw
  held := fun e he => by cases he

theorem Staffed.steps? : ∀ (es : List Event) {p q : Pool}, Staffed p → p.steps? es = some q →
    Staffed q := by
  intro es
  induction es with
  | nil =>
      intro p q c hs
      cases hs
      exact c
  | cons e rest ih =>
      intro p q c hs
      rw [steps?_cons] at hs
      obtain ⟨mid, hmid, hrest⟩ := Option.bind_eq_some_iff.mp hs
      exact ih (c.step? hmid) hrest

/-- **Every slot of a pool has a worker**, in every state that the pool can be in. -/
theorem staffed_of_steps? {size : Nat} {i : Interpreter} {es : List Event} {p : Pool}
    (hs : (new size i).steps? es = some p) : Staffed p :=
  Staffed.steps? es (staffed_new size i) hs

end Lookout.Pool
