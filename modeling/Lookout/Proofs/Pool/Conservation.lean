/-
No slot of a pool is lost, doubled or refused.

Permits and free slots are two counts that change in different steps: a caller takes a permit
first and the slot afterwards, and gives the slot back first and the permit afterwards.  What
makes them agree is the handles in between.  A handle that has a permit and no slot, because it
has not taken one yet or has already given it back, stands for one free slot that no permit is
left for; every other handle holds the slot of its permit.  So

    free slots = permits + handles without a slot,
    permits + handles = size.

`Conserved` is these two equations together with the place of every slot: it is free or with
one handle, and never both.  Every step preserves it, whatever workers and scripts do in the
meantime.
-/
import Mathlib.Data.List.Nodup
import Lookout.Pool.Session
import Lookout.Proofs.Pool.Step

namespace Lookout.Pool

open Script (Interpreter)

/-- Whether a handle holds the slot with a number. -/
def Holding.holds (id : Nat) : Holding → Bool
  | held slot _ => slot.id == id
  | _ => false

/-- Whether a handle has a permit but no slot, since it has not taken it yet or has already
given it back. -/
def Holding.hasNoSlot : Holding → Bool
  | permitted => true
  | dropped => true
  | _ => false

@[simp] theorem holds_held (id : Nat) (slot : Slot) (state : SlotState) :
    (Holding.held slot state).holds id = (slot.id == id) := rfl
@[simp] theorem holds_permitted (id : Nat) : Holding.permitted.holds id = false := rfl
@[simp] theorem holds_dropped (id : Nat) : Holding.dropped.holds id = false := rfl
@[simp] theorem hasNoSlot_permitted : Holding.permitted.hasNoSlot = true := rfl
@[simp] theorem hasNoSlot_dropped : Holding.dropped.hasNoSlot = true := rfl

/-- In how many places a slot is: among the free ones, or with handles. -/
def places (p : Pool) (id : Nat) : Nat :=
  p.free.countP (·.id == id) + p.handles.countP (·.2.holds id)

/-- The slots, permits and handles of a pool of `n` slots add up. -/
structure Conserved (n : Nat) (p : Pool) : Prop where
  size : p.size = n
  /-- No two handles have one number. -/
  nodup : (p.handles.map (·.1)).Nodup
  /-- The number of the next handle is new. -/
  numbered : ∀ e ∈ p.handles, e.1 < p.nextHandle
  /-- No caller found a permit and no slot. -/
  granted : ∀ e ∈ p.handles, e.2 ≠ .refused
  permits : p.permits + p.handles.length = n
  free : p.free.length = p.permits + p.handles.countP (·.2.hasNoSlot)
  /-- Every slot is in one place. -/
  placed : ∀ id, p.places id = if id < n then 1 else 0

variable {n : Nat} {p q : Pool}

/-! ### One handle changed, or one taken away

Handles are told apart by their numbers.  So a handle that is found splits the list in two parts
that do not mention it: changing the handle changes the entry between them, taking it away
removes that entry, and whatever is counted over the list moves by this one entry.
-/

theorem split_handles {h : Nat} {old : Holding} (hn : (p.handles.map (·.1)).Nodup)
    (hh : p.holding? h = some old) :
    ∃ l r, p.handles = l ++ (h, old) :: r ∧
      (∀ new, (p.hold h new).handles = l ++ (h, new) :: r) ∧
      (p.handles.filter fun e => e.1 ≠ h) = l ++ r := by
  obtain ⟨l, r, hlr, hl⟩ := List.lookup_eq_some_iff.mp hh
  rw [hlr, List.map_append, List.map_cons, List.nodup_append, List.nodup_cons] at hn
  have hleft : ∀ e ∈ l, e.1 ≠ h := fun e he heq => by
    have hne := hl e he
    rw [heq, bne_self_eq_false] at hne
    cases hne
  have hright : ∀ e ∈ r, e.1 ≠ h := fun e he heq =>
    hn.2.1.1 (List.mem_map.mpr ⟨e, he, heq⟩)
  have hsame : ∀ (new : Holding) (m : List (Nat × Holding)), (∀ e ∈ m, e.1 ≠ h) →
      (m.map fun e => if e.1 = h then (h, new) else e) = m := by
    intro new m hm
    conv => rhs; rw [← List.map_id m]
    exact List.map_congr_left fun e he => if_neg (hm e he)
  refine ⟨l, r, hlr, fun new => ?_, ?_⟩
  · unfold hold
    rw [hlr, List.map_append, List.map_cons, hsame new l hleft, hsame new r hright]
    simp
  · rw [hlr, List.filter_append, List.filter_cons]
    simp only [ne_eq, not_true_eq_false, decide_false, Bool.false_eq_true, if_false]
    rw [List.filter_eq_self.mpr fun e he => by simpa using hleft e he,
      List.filter_eq_self.mpr fun e he => by simpa using hright e he]

@[simp] theorem hold_keys (h : Nat) (c : Holding) :
    (p.hold h c).handles.map (·.1) = p.handles.map (·.1) := by
  unfold hold
  rw [List.map_map]
  refine List.map_congr_left fun e _ => ?_
  by_cases he : e.1 = h <;> simp [he]

@[simp] theorem hold_length (h : Nat) (c : Holding) :
    (p.hold h c).handles.length = p.handles.length :=
  List.length_map _

theorem mem_of_holding {h : Nat} {c : Holding} (hh : p.holding? h = some c) :
    (h, c) ∈ p.handles := by
  obtain ⟨l, r, hlr, -⟩ := List.lookup_eq_some_iff.mp hh
  rw [hlr]
  exact List.mem_append_right _ List.mem_cons_self

theorem holding_of_mem {h : Nat} {c : Holding} (hn : (p.handles.map (·.1)).Nodup)
    (hm : (h, c) ∈ p.handles) : p.holding? h = some c := by
  cases hh : p.holding? h with
  | none =>
      have hne := List.lookup_eq_none_iff.mp hh _ hm
      simp at hne
  | some d =>
      have hd := List.inj_on_of_nodup_map hn hm (mem_of_holding hh) rfl
      rw [(Prod.mk.inj hd).2]

theorem holding_hold {h : Nat} {old new : Holding} (hn : (p.handles.map (·.1)).Nodup)
    (hh : p.holding? h = some old) : (p.hold h new).holding? h = some new := by
  obtain ⟨l, r, -, hnew, -⟩ := split_handles hn hh
  refine holding_of_mem (by rw [hold_keys]; exact hn) ?_
  rw [hnew]
  exact List.mem_append_right _ List.mem_cons_self

/-- The head of a list counts once or not at all. -/
theorem countP_cons_toNat {α : Type} (f : α → Bool) (x : α) (xs : List α) :
    (x :: xs).countP f = (f x).toNat + xs.countP f := by
  rw [List.countP_cons, Nat.add_comm]
  cases f x with
  | true => rfl
  | false => rfl

theorem countP_hold (f : Holding → Bool) {h : Nat} {old : Holding} (new : Holding)
    (hn : (p.handles.map (·.1)).Nodup) (hh : p.holding? h = some old) :
    (p.hold h new).handles.countP (fun e => f e.2) + (f old).toNat
      = p.handles.countP (fun e => f e.2) + (f new).toNat := by
  obtain ⟨l, r, hlr, hnew, -⟩ := split_handles hn hh
  rw [hnew, hlr]
  simp only [List.countP_append, countP_cons_toNat]
  omega

theorem countP_filter_handles (f : Holding → Bool) {h : Nat} {old : Holding}
    (hn : (p.handles.map (·.1)).Nodup) (hh : p.holding? h = some old) :
    (p.handles.filter fun e => e.1 ≠ h).countP (fun e => f e.2) + (f old).toNat
      = p.handles.countP (fun e => f e.2) := by
  obtain ⟨l, r, hlr, -, hfilter⟩ := split_handles hn hh
  rw [hfilter, hlr]
  simp only [List.countP_append, countP_cons_toNat]
  omega

/-! ### What preserves the invariant -/

namespace Conserved

theorem of_sameLedger (c : Conserved n p) (s : SameLedger p q) : Conserved n q where
  size := by rw [s.size]; exact c.size
  nodup := by rw [s.handles]; exact c.nodup
  numbered := by rw [s.handles, s.nextHandle]; exact c.numbered
  granted := by rw [s.handles]; exact c.granted
  permits := by rw [s.permits, s.handles]; exact c.permits
  free := by rw [s.free, s.permits, s.handles]; exact c.free
  placed := fun id => by
    have := c.placed id
    unfold places at this ⊢
    rw [s.free, s.handles]
    exact this

/-- A handle that has a permit and no slot yet stands for a slot that is free. -/
theorem free_ne_nil (c : Conserved n p) {h : Nat} (hh : p.holding? h = some .permitted) :
    p.free ≠ [] := by
  intro hfree
  have hcount := c.free
  have hpos : 0 < p.handles.countP (·.2.hasNoSlot) :=
    List.countP_pos_iff.mpr ⟨_, mem_of_holding hh, rfl⟩
  rw [hfree, List.length_nil] at hcount
  omega

/-- A handle may come to hold something else and the free slots may change with it, as long as
every slot that it takes up leaves the free ones and every slot that it lets go of joins
them. -/
theorem hold (c : Conserved n p) {h : Nat} {old new : Holding} (free : List Slot)
    (hh : p.holding? h = some old) (hnew : new ≠ .refused)
    (hfree : free.length + old.hasNoSlot.toNat = p.free.length + new.hasNoSlot.toNat)
    (hplaced : ∀ id, free.countP (·.id == id) + (new.holds id).toNat
      = p.free.countP (·.id == id) + (old.holds id).toNat) :
    Conserved n (({ p with free := free } : Pool).hold h new) where
  size := c.size
  nodup := by rw [hold_keys]; exact c.nodup
  numbered := fun e he => by
    have hkey : e.1 ∈ p.handles.map (·.1) := by
      rw [← hold_keys (p := { p with free := free }) h new]
      exact List.mem_map_of_mem he
    obtain ⟨d, hd, heq⟩ := List.mem_map.mp hkey
    rw [← heq]
    exact c.numbered d hd
  granted := fun e he => by
    obtain ⟨d, hd, rfl⟩ := List.mem_map.mp he
    split
    · exact hnew
    · exact c.granted d hd
  permits := by rw [hold_length]; exact c.permits
  free := by
    have hcount : _ = p.handles.countP (fun e => e.2.hasNoSlot) + _ :=
      countP_hold (p := { p with free := free }) Holding.hasNoSlot new c.nodup hh
    have hold := c.free
    show free.length = p.permits + _
    omega
  placed := fun id => by
    have hcount : _ = p.handles.countP (fun e => e.2.holds id) + _ :=
      countP_hold (p := { p with free := free }) (Holding.holds id) new c.nodup hh
    have hmoved := hplaced id
    rw [← c.placed id]
    unfold places
    show free.countP _ + _ = _
    omega

/-- A handle that uses its slot in another way keeps it. -/
theorem hold_held (c : Conserved n p) {h : Nat} {slot : Slot} {old new : SlotState}
    (hh : p.holding? h = some (.held slot old)) : Conserved n (p.hold h (.held slot new)) :=
  c.hold p.free hh (fun hc => by cases hc) rfl (fun _ => rfl)

theorem takePermit (c : Conserved n p) (hs : p.takePermit = some q) : Conserved n q := by
  obtain ⟨hpos, rfl⟩ := takePermit_cases hs
  refine ⟨c.size, ?_, ?_, ?_, ?_, ?_, ?_⟩
  · refine List.nodup_cons.mpr ⟨fun hmem => ?_, c.nodup⟩
    obtain ⟨e, he, heq⟩ := List.mem_map.mp hmem
    exact absurd heq (Nat.ne_of_lt (c.numbered e he))
  · intro e he
    rcases List.mem_cons.mp he with rfl | he
    · exact Nat.lt_succ_self _
    · exact Nat.lt_succ_of_lt (c.numbered e he)
  · intro e he
    rcases List.mem_cons.mp he with rfl | he
    · exact fun hc => by cases hc
    · exact c.granted e he
  · have := c.permits
    show p.permits - 1 + (p.handles.length + 1) = n
    omega
  · have hfree := c.free
    show p.free.length = p.permits - 1 + List.countP _ (_ :: _)
    rw [List.countP_cons, hasNoSlot_permitted, if_pos rfl]
    omega
  · intro id
    have hplaced := c.placed id
    unfold places at hplaced ⊢
    rw [List.countP_cons, holds_permitted, if_neg Bool.false_ne_true]
    exact hplaced

theorem popSlot (c : Conserved n p) {h : Nat} (hs : p.popSlot h = some q) : Conserved n q := by
  obtain ⟨hh, ⟨slot, rest, hfree, rfl⟩ | ⟨hfree, -⟩⟩ := popSlot_cases hs
  · refine c.hold _ hh (fun hc => by cases hc) ?_ fun id => ?_
    · rw [hfree]; rfl
    · rw [hfree, List.countP_cons]
      rw [holds_held, holds_permitted]
      cases slot.id == id <;> rfl
  · exact absurd hfree (c.free_ne_nil hh)

theorem send (c : Conserved n p) {h : Nat} {request : EvalRequest}
    (hs : p.send h request = some q) : Conserved n q := by
  obtain ⟨slot, w, hh, -, ⟨-, rfl⟩ | ⟨-, rfl⟩⟩ := send_cases hs
  · exact (c.hold_held hh).of_sameLedger ⟨rfl, rfl, rfl, rfl, rfl⟩
  · exact (c.hold_held hh).of_sameLedger ⟨rfl, rfl, rfl, rfl, rfl⟩

theorem receive (c : Conserved n p) {h : Nat} (hs : p.receive h = some q) : Conserved n q := by
  obtain ⟨slot, j, job, hh, -, ⟨o, -, rfl⟩ | ⟨t, -, rfl⟩ | ⟨-, rfl⟩⟩ := receive_cases hs
  · exact (c.hold_held hh).of_sameLedger ⟨rfl, rfl, rfl, rfl, rfl⟩
  · exact (c.hold_held hh).of_sameLedger ⟨rfl, rfl, rfl, rfl, rfl⟩
  · exact (c.hold_held hh).of_sameLedger ⟨rfl, rfl, rfl, rfl, rfl⟩

/-- A slot given back is free; its worker may be another one than before. -/
theorem giveBack (c : Conserved n p) {h : Nat} {slot : Slot} (fresh : Slot) {state : SlotState}
    (hh : p.holding? h = some (.held slot state)) (hid : fresh.id = slot.id) :
    Conserved n (({ p with free := fresh :: p.free } : Pool).hold h .dropped) := by
  refine c.hold _ hh (fun hc => by cases hc) rfl fun id => ?_
  rw [List.countP_cons, hid]
  rw [holds_held, holds_dropped]
  cases slot.id == id <;> rfl

theorem dropHandle (c : Conserved n p) {h : Nat} (hs : p.dropHandle h = some q) :
    Conserved n q := by
  obtain ⟨slot, state, hh, ⟨-, rfl⟩ | ⟨j, -, rfl⟩ | ⟨-, rfl⟩⟩ := dropHandle_cases hs
  · exact c.giveBack _ hh rfl
  · exact (c.giveBack _ hh rfl).of_sameLedger ⟨rfl, rfl, rfl, rfl, rfl⟩
  · exact (c.giveBack ⟨slot.id, p.workers.size⟩ hh rfl).of_sameLedger ⟨rfl, rfl, rfl, rfl, rfl⟩

theorem returnPermit (c : Conserved n p) {h : Nat} (hs : p.returnPermit h = some q) :
    Conserved n q := by
  obtain ⟨hdropped, rfl⟩ := returnPermit_cases hs
  have hh : p.holding? h = some .dropped := by
    rcases hdropped with hh | hh
    · exact hh
    · exact absurd rfl (c.granted _ (mem_of_holding hh))
  obtain ⟨l, r, hlr, -, hfilter⟩ := split_handles c.nodup hh
  have hsub : (p.handles.filter fun e => e.1 ≠ h).Sublist p.handles := List.filter_sublist
  refine ⟨c.size, (hsub.map _).nodup c.nodup, fun e he => c.numbered e (hsub.subset he),
    fun e he => c.granted e (hsub.subset he), ?_, ?_, fun id => ?_⟩
  · have hpermits := c.permits
    rw [hlr] at hpermits
    show p.permits + 1 + List.length _ = n
    rw [hfilter]
    simp only [List.length_append, List.length_cons] at hpermits ⊢
    omega
  · have hfree := c.free
    have hcount := countP_filter_handles Holding.hasNoSlot c.nodup hh
    rw [hasNoSlot_dropped, Bool.toNat_true] at hcount
    show p.free.length = p.permits + 1 + List.countP _ (p.handles.filter _)
    omega
  · have hcount := countP_filter_handles (Holding.holds id) c.nodup hh
    rw [← c.placed id]
    unfold places
    rw [holds_dropped, Bool.toNat_false] at hcount
    show p.free.countP _ + List.countP _ (p.handles.filter _) = _
    omega

theorem step? (c : Conserved n p) {e : Event} (hs : p.step? e = some q) : Conserved n q := by
  cases e with
  | takePermit => exact c.takePermit hs
  | popSlot h => exact c.popSlot hs
  | send h request => exact c.send hs
  | receive h => exact c.receive hs
  | dropHandle h => exact c.dropHandle hs
  | returnPermit h => exact c.returnPermit hs
  | _ => exact c.of_sameLedger (step?_sameLedger rfl hs)

end Conserved

/-! ### Every reachable state -/

theorem conserved_new (n : Nat) (fresh : Interpreter) : Conserved n (new n fresh) where
  size := rfl
  nodup := List.nodup_nil
  numbered := fun e he => by cases he
  granted := fun e he => by cases he
  permits := rfl
  free := by
    show ((List.range n).map fun i => (⟨i, i⟩ : Slot)).reverse.length = n
    simp
  placed := fun id => by
    show ((List.range n).map fun i => (⟨i, i⟩ : Slot)).reverse.countP _ + 0 = _
    rw [List.countP_reverse, List.countP_map]
    show (List.range n).count id = _
    by_cases hid : id < n
    · rw [if_pos hid, List.count_eq_one_of_mem List.nodup_range (List.mem_range.mpr hid)]
    · rw [if_neg hid, List.count_eq_zero_of_not_mem (fun hm => hid (List.mem_range.mp hm))]

/-- Every state that steps lead to from a new pool adds up. -/
theorem conserved_of_steps? {fresh : Interpreter} {es : List Event}
    (hs : (new n fresh).steps? es = some p) : Conserved n p :=
  steps?_induct (fun _ _ _ hc hstep => hc.step? hstep) es (conserved_new n fresh) hs

/-- A caller that has a permit gets a slot. -/
theorem Conserved.popSlot_ok (c : Conserved n p) {h : Nat} (hh : p.holding? h = some .permitted) :
    ∃ q slot, p.popSlot h = some q ∧ q.holding? h = some (.held slot .idle) := by
  cases hfree : p.free with
  | nil => exact absurd hfree (c.free_ne_nil hh)
  | cons slot rest =>
      refine ⟨({ p with free := rest } : Pool).hold h (.held slot .idle), slot, ?_, ?_⟩
      · simp only [Pool.popSlot, hh, hfree]
      · exact holding_hold (p := { p with free := rest }) c.nodup hh

/-- As long as there is a permit, a slot can be taken. -/
theorem Conserved.acquire_ok (c : Conserved n p) (hp : 0 < p.permits) :
    ∃ q slot, p.acquire? = some (p.nextHandle, q) ∧ q.slotOf? p.nextHandle = some slot := by
  obtain ⟨taken, htake⟩ : ∃ taken, p.takePermit = some taken :=
    ⟨_, if_neg (Nat.ne_of_gt hp)⟩
  have hh : taken.holding? p.nextHandle = some .permitted := by
    obtain ⟨-, rfl⟩ := takePermit_cases htake
    exact List.lookup_cons_self
  obtain ⟨q, slot, hpop, hheld⟩ := (c.takePermit htake).popSlot_ok hh
  refine ⟨q, slot, ?_, ?_⟩
  · have hboth : p.steps? [.takePermit, .popSlot p.nextHandle] = some q := by
      rw [steps?_cons, show p.step? .takePermit = some taken from htake, Option.bind_some,
        steps?_cons, show taken.step? (.popSlot p.nextHandle) = some q from hpop]
      rfl
    unfold acquire?
    rw [hboth]
    rfl
  · unfold slotOf?
    rw [hheld]

/-- A slot is with one handle at most. -/
theorem Conserved.eq_of_holds (c : Conserved n p) {h k : Nat} {a b : Holding} (id : Nat)
    (hh : p.holding? h = some a) (hk : p.holding? k = some b) (ha : a.holds id = true)
    (hb : b.holds id = true) : h = k := by
  by_contra hne
  have hcount := countP_filter_handles (Holding.holds id) c.nodup hh
  have hpos : 0 < (p.handles.filter fun e => e.1 ≠ h).countP (fun e => e.2.holds id) := by
    refine List.countP_pos_iff.mpr ⟨(k, b), List.mem_filter.mpr ⟨mem_of_holding hk, ?_⟩, hb⟩
    simpa using Ne.symm hne
  have hplaced := c.placed id
  unfold places at hplaced
  rw [ha, Bool.toNat_true] at hcount
  split at hplaced <;> omega

/-- **No slot is lost, doubled or refused.**  Whatever steps callers and workers have taken
since a pool of `n` slots was new, each of its slots is free or with one handle, and there are
no more permits than free slots.  So a caller with a permit gets a slot, a slot can be taken as
long as the pool says that one is available, two handles never hold one slot, and once no handle
is left all slots are available again. -/
theorem slots_conserved {fresh : Interpreter} {es : List Event}
    (hs : (new n fresh).steps? es = some p) :
    (∀ id, p.places id = if id < n then 1 else 0) ∧
      p.available ≤ p.free.length ∧
      (∀ h, p.holding? h ≠ some .refused) ∧
      (∀ h, p.holding? h = some .permitted →
        ∃ q slot, p.popSlot h = some q ∧ q.holding? h = some (.held slot .idle)) ∧
      (0 < p.available →
        ∃ q slot, p.acquire? = some (p.nextHandle, q) ∧ q.slotOf? p.nextHandle = some slot) ∧
      (∀ h k slot slot' state state', p.holding? h = some (.held slot state) →
        p.holding? k = some (.held slot' state') → slot.id = slot'.id → h = k) ∧
      (p.handles = [] → p.available = p.size ∧ p.size = n) := by
  have c := conserved_of_steps? hs
  refine ⟨c.placed, ?_, ?_, fun h hh => c.popSlot_ok hh, c.acquire_ok, ?_, ?_⟩
  · have hfree := c.free
    show p.permits ≤ _
    omega
  · exact fun h hh => c.granted _ (mem_of_holding hh) rfl
  · intro h k slot slot' state state' hh hk hid
    exact c.eq_of_holds slot'.id hh hk (by simp [hid]) (by simp)
  · intro hnone
    have hpermits := c.permits
    rw [hnone, List.length_nil] at hpermits
    exact ⟨by rw [c.size]; exact hpermits, c.size⟩

/-- Three callers, the first of whom loses its worker while the second one waits for a slot. -/
def mishap : List Event :=
  [.takePermit, .popSlot 0, .send 0 ⟨"True", ⟨"a", 0, .null⟩⟩, .start 1, .takePermit, .die 1,
    .uncount 1, .closeQueue 1, .receive 0, .popSlot 1, .dropHandle 0, .returnPermit 0, .takePermit]

theorem slots_conserved_mishap : ∃ p, (new 2 Interpreter.bare).steps? mishap = some p ∧
    p.places 0 = 1 ∧ p.places 1 = 1 ∧ p.available = 0 ∧ p.free = [⟨1, 2⟩] ∧
      ∃ q slot, p.popSlot 2 = some q ∧ q.holding? 2 = some (.held slot .idle) := by
  obtain ⟨p, hp⟩ : ∃ p, (new 2 Interpreter.bare).steps? mishap = some p := ⟨_, rfl⟩
  have h := slots_conserved hp
  cases hp
  exact ⟨_, rfl, h.1 0, h.1 1, rfl, rfl, h.2.2.2.1 2 rfl⟩

end Lookout.Pool
