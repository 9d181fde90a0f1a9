/-
What a step of a pool leaves alone, seen from one caller.

Jobs are never taken off the list and never come to ask for something else, and what a handle
holds is changed by the steps of that handle only.
-/
import Lookout.Cycle.Step
import Lookout.Proofs.Arrays
import Lookout.Proofs.Pool.Conservation

namespace Lookout.Pool

open Script (Interpreter)

variable {p q r : Pool}

/-- Every job of a pool is still there in a later state, and asks for the same. -/
def SameRequests (p q : Pool) : Prop :=
  ∀ (j : Nat) (job : Job), p.jobs[j]? = some job →
    ∃ later, q.jobs[j]? = some later ∧ later.request = job.request

namespace SameRequests

theorem of_eq (h : q.jobs = p.jobs) : SameRequests p q :=
  fun j job hj => ⟨job, by rw [h]; exact hj, rfl⟩

theorem trans (h : SameRequests p q) (h' : SameRequests q r) : SameRequests p r := by
  intro j job hj
  obtain ⟨mid, hmid, hsame⟩ := h j job hj
  obtain ⟨last, hlast, hsame'⟩ := h' j mid hmid
  exact ⟨last, hlast, hsame'.trans hsame⟩

theorem push (h : q.jobs = p.jobs.push job) : SameRequests p q :=
  fun j old hj => ⟨old, by rw [h]; exact getElem?_push_of_some _ hj, rfl⟩

theorem modify {k : Nat} {f : Job → Job} (h : q.jobs = p.jobs.modify k f)
    (hf : ∀ job, (f job).request = job.request) : SameRequests p q := by
  intro j job hj
  rw [h, Array.getElem?_modify, hj]
  split
  · exact ⟨f job, rfl, hf job⟩
  · exact ⟨job, rfl, rfl⟩

theorem closed (queue : List Nat) :
    ∀ {p q : Pool}, q.jobs = closed queue p.jobs → SameRequests p q := by
  induction queue with
  | nil => exact fun h => of_eq h
  | cons k rest ih =>
      intro p q h
      have hfirst : SameRequests p (p.modifyJob k fun job => { job with reply := .closed }) :=
        modify (f := fun job => { job with reply := .closed }) rfl fun _ => rfl
      exact hfirst.trans (ih h)

theorem step? {e : Event} (hs : p.step? e = some q) : SameRequests p q := by
  cases e with
  | takePermit =>
      obtain ⟨-, rfl⟩ := takePermit_cases hs
      exact of_eq rfl
  | popSlot h =>
      obtain ⟨-, ⟨_, _, -, rfl⟩ | ⟨-, rfl⟩⟩ := popSlot_cases hs
      · exact of_eq rfl
      · exact of_eq rfl
  | send h request =>
      obtain ⟨_, _, -, -, ⟨-, rfl⟩ | ⟨-, rfl⟩⟩ := send_cases hs
      · exact push rfl
      · exact push rfl
  | start w =>
      obtain ⟨_, _, _, -, rfl⟩ := start_cases hs
      exact of_eq rfl
  | finish w cancelAt =>
      obtain ⟨i, _, _, job, -, -, -, -, rfl⟩ := finish_cases hs
      exact modify (f := fun old => { old with
        reply := .answered (i.run cancelAt job.request.script job.request.context).1 })
        rfl fun _ => rfl
  | die w =>
      obtain ⟨_, _, _, -, rfl⟩ := die_cases hs
      exact modify (f := fun job => { job with reply := .closed }) rfl fun _ => rfl
  | uncount w =>
      obtain ⟨_, -, -, rfl⟩ := uncount_cases hs
      exact of_eq rfl
  | closeQueue w =>
      obtain ⟨_, queue, _, -, rfl⟩ := closeQueue_cases hs
      exact closed queue rfl
  | receive h =>
      obtain ⟨_, _, _, -, -, ⟨_, -, rfl⟩ | ⟨_, -, rfl⟩ | ⟨-, rfl⟩⟩ := receive_cases hs
      · exact of_eq rfl
      · exact of_eq rfl
      · exact of_eq rfl
  | dropHandle h =>
      obtain ⟨_, _, -, ⟨-, rfl⟩ | ⟨_, -, rfl⟩ | ⟨-, rfl⟩⟩ := dropHandle_cases hs
      · exact of_eq rfl
      · exact modify (f := fun job => { job with cancelled := true }) rfl fun _ => rfl
      · exact of_eq rfl
  | returnPermit h =>
      obtain ⟨-, rfl⟩ := returnPermit_cases hs
      exact of_eq rfl

end SameRequests

/-! ### What a handle holds -/

/-- A handle that comes to hold something else is no other handle. -/
theorem holding_hold_of_ne {h k : Nat} {c : Holding} (hne : h ≠ k) :
    (p.hold h c).holding? k = p.holding? k := by
  show (p.handles.map fun e => if e.1 = h then (h, c) else e).lookup k = p.handles.lookup k
  induction p.handles with
  | nil => rfl
  | cons e rest ih =>
      rw [List.map_cons, List.lookup_cons, List.lookup_cons, ih]
      by_cases he : e.1 = h
      · rw [if_pos he, he, beq_false_of_ne hne.symm]
      · rw [if_neg he]

/-- A handle that goes is no other handle. -/
theorem lookup_filter_ne {h k : Nat} (hne : h ≠ k) :
    ∀ handles : List (Nat × Holding),
      (handles.filter fun e => e.1 ≠ h).lookup k = handles.lookup k := by
  intro handles
  induction handles with
  | nil => rfl
  | cons e rest ih =>
      by_cases he : e.1 = h
      · rw [List.filter_cons_of_neg (by simpa using he), ih, List.lookup_cons, he,
          beq_false_of_ne hne.symm]
      · rw [List.filter_cons_of_pos (by simpa using he), List.lookup_cons, List.lookup_cons, ih]

/-- **What a handle holds is its own business**: a step that is not one of it leaves it alone. -/
theorem Conserved.holding_step? {n : Nat} (c : Conserved n p) {e : Event} {k : Nat}
    {content : Holding} (hs : p.step? e = some q) (hk : p.holding? k = some content)
    (hne : e.handle? ≠ some k) : q.holding? k = some content := by
  have hother : ∀ {h : Nat}, e.handle? = some h → h ≠ k :=
    fun hh heq => hne (by rw [hh, heq])
  cases e with
  | takePermit =>
      obtain ⟨-, rfl⟩ := takePermit_cases hs
      have hlt := c.numbered _ (mem_of_holding hk)
      show List.lookup k ((p.nextHandle, Holding.permitted) :: p.handles) = _
      rw [List.lookup_cons, beq_false_of_ne (Nat.ne_of_lt hlt)]
      exact hk
  | popSlot h =>
      obtain ⟨-, ⟨_, _, -, rfl⟩ | ⟨-, rfl⟩⟩ := popSlot_cases hs
      · exact (holding_hold_of_ne (hother rfl)).trans hk
      · exact (holding_hold_of_ne (hother rfl)).trans hk
  | send h request =>
      obtain ⟨_, _, -, -, ⟨-, rfl⟩ | ⟨-, rfl⟩⟩ := send_cases hs
      · exact (holding_hold_of_ne (hother rfl)).trans hk
      · exact (holding_hold_of_ne (hother rfl)).trans hk
  | receive h =>
      obtain ⟨_, _, _, -, -, ⟨_, -, rfl⟩ | ⟨_, -, rfl⟩ | ⟨-, rfl⟩⟩ := receive_cases hs
      · exact (holding_hold_of_ne (hother rfl)).trans hk
      · exact (holding_hold_of_ne (hother rfl)).trans hk
      · exact (holding_hold_of_ne (hother rfl)).trans hk
  | dropHandle h =>
      obtain ⟨_, _, -, ⟨-, rfl⟩ | ⟨_, -, rfl⟩ | ⟨-, rfl⟩⟩ := dropHandle_cases hs
      · exact (holding_hold_of_ne (hother rfl)).trans hk
      · exact (holding_hold_of_ne (hother rfl)).trans hk
      · exact (holding_hold_of_ne (hother rfl)).trans hk
  | returnPermit h =>
      obtain ⟨-, rfl⟩ := returnPermit_cases hs
      exact (lookup_filter_ne (hother rfl) p.handles).trans hk
  | _ =>
      have hsame := (step?_sameLedger rfl hs).handles
      unfold holding?
      rw [hsame]
      exact hk

end Lookout.Pool
