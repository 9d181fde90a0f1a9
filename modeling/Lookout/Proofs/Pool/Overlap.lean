/-
Where nothing overlaps, nothing is different.

An evaluation that has to reckon with what earlier callers left behind is, on a pool at rest, the
evaluation that does not, as long as its own run is over in time: the worker of the slot that it
takes is at no other job, so there is nothing to catch up with.
-/
import Lookout.Pool.Overlap
import Lookout.Proofs.Pool.Evaluate

namespace Lookout.Pool

open Script (Interpreter Outcome Trouble)

variable {p : Pool} {i : Interpreter} {top : Nat} {slot : Slot} {rest : List Slot}
  {request : EvalRequest}

/-- The worker of a slot that was just taken is at no job of an earlier caller. -/
theorem catchUp_sent (hw : p.workers[slot.worker]? = some (Worker.new p.fresh)) :
    ((p.taken slot rest).after [.send p.nextHandle request]).catchUp slot.worker
      = (p.taken slot rest).after [.send p.nextHandle request] := by
  have hnone : ((p.taken slot rest).after [.send p.nextHandle request]).runOf slot.worker none
      = none := by
    have hset : (p.workers.setIfInBounds slot.worker
        ⟨p.fresh, [p.jobs.size], none, .working⟩)[slot.worker]?
          = some ⟨p.fresh, [p.jobs.size], none, .working⟩ :=
      Array.getElem?_setIfInBounds_self_of_lt (Array.getElem?_eq_some_iff.mp hw).1
    simp [after, steps?, step?, send, holding?, Pool.hold, taken, modifyWorker, hw,
      modify_eq_set _ hw, Worker.new, runOf, hset]
  unfold catchUp
  rw [hnone]

/-- A run that is over in time ends as it does for a caller who need not leave it behind. -/
theorem concludeOverlapping_eq {patience : Option Nat} {h w j : Nat}
    {result : Except Trouble Outcome × Interpreter}
    (hin : outlasts result.2 patience request = false) :
    p.concludeOverlapping patience request h w j result = p.conclude h w j result := by
  unfold concludeOverlapping
  split
  · rfl
  · rw [hin, if_neg Bool.false_ne_true]

/-- **An evaluation on a pool at rest that is over in time** is the same whether or not it reckons
with workers that are still at other jobs. -/
theorem AtRest.evaluateOverlapping_eq (c : AtRest i top p) {patience : Option Nat}
    (hin : outlasts i patience request = false) :
    p.evaluateOverlapping patience request = p.evaluate patience request := by
  obtain ⟨slot, rest, hfree, -, hw⟩ := c.exists_top
  obtain rfl : p.fresh = i := c.fresh
  have hslot : (p.taken slot rest).slotOf? p.nextHandle = some slot := by
    simp [slotOf?, holding?, taken]
  rw [evaluate_eq_conclude c.permits c.handles hfree hw]
  unfold evaluateOverlapping
  rw [acquire?_eq c.permits c.handles hfree]
  dsimp only
  rw [hslot]
  dsimp only
  rw [catchUp_sent hw, start_send_eq hw, runOf_begun hw]
  dsimp only
  exact concludeOverlapping_eq ((p.fresh.run_snd _ _ _).symm ▸ hin)

end Lookout.Pool
