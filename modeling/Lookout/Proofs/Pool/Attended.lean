/-
Every step of a pool leaves workers and jobs where they belong.

A worker only ever lets go of jobs: it begins the next one, answers it, or dies and answers none of
those that it has.  A caller adds one to the worker of its slot, as the last one there, and moves
slots and handles; what it stops to wait for has its reply or was given up.  `Attended` is kept by
each of these, one lemma for each step.
-/
import Lookout.Proofs.Pool.Posts

namespace Lookout.Pool

open Script (Interpreter Outcome Trouble)

variable {n : Nat} {i : Interpreter} {p q : Pool} {past : List Deed}

/-! ### A job sent -/

/-- The pool with a job sent to the worker of a slot that a handle holds. -/
def enqueued (p : Pool) (h : Nat) (slot : Slot) (request : EvalRequest) : Pool :=
  (({ p with jobs := p.jobs.push ⟨request, false, .waiting⟩ } : Pool).modifyWorker slot.worker
    fun w => { w with queue := w.queue ++ [p.jobs.size] }).hold h
      (.held slot (.running p.jobs.size))

section Enqueued

variable (h : Nat) {slot : Slot} (request : EvalRequest) {k : Worker}
  (hk : p.workers[slot.worker]? = some k)
include hk

/-- The job is with that worker, and all others are where they were. -/
theorem has_enqueued (v j : Nat) :
    (p.enqueued h slot request).has v j ↔ p.has v j ∨ slot.worker = v ∧ j = p.jobs.size := by
  refine (has_modifyWorker (p := { p with jobs := p.jobs.push ⟨request, false, .waiting⟩ })
    hk).trans ?_
  split
  · case isTrue hw =>
    subst hw
    rw [has_iff hk]
    unfold Worker.jobs
    simp [or_assoc]
  · case isFalse hne => exact ⟨Or.inl, fun hj => hj.resolve_right fun hv => hne hv.1⟩

theorem works_enqueued (v : Nat) : (p.enqueued h slot request).works v ↔ p.works v := by
  refine (works_modifyWorker (p := { p with jobs := p.jobs.push ⟨request, false, .waiting⟩ })
    hk).trans ?_
  split
  · case isTrue hw =>
    subst hw
    rw [works_iff hk]
  · exact Iff.rfl

end Enqueued

/-- A handle that uses its slot in another way still has it. -/
theorem posts_hold_held (hn : (p.handles.map (·.1)).Nodup) {h : Nat} {slot : Slot}
    {old : SlotState} (hh : p.holding? h = some (.held slot old)) (new : SlotState) (w : Nat) :
    (p.hold h (.held slot new)).posts w = p.posts w := by
  have hcount := countP_hold (Holding.uses w) (.held slot new) hn hh
  unfold posts
  rw [uses_held, uses_held] at hcount
  rw [hold_free]
  omega

/-! ### A worker replaced -/

/-- The pool with a new worker for a slot that has none. -/
def enlisted (p : Pool) (own : Interpreter) (id : Nat) : Pool :=
  { p with
    workers := p.workers.push (Worker.new own)
    live := p.live + 1
    free := ⟨id, p.workers.size⟩ :: p.free }

theorem posts_enlisted (own : Interpreter) (id w : Nat) :
    (p.enlisted own id).posts w = (p.workers.size == w).toNat + p.posts w := by
  unfold posts enlisted
  rw [countP_cons_toNat, Nat.add_assoc]

/-- A worker is the new one or was there before. -/
theorem getElem?_enlisted {own : Interpreter} {id v : Nat} {k : Worker}
    (hk : (p.enlisted own id).workers[v]? = some k) :
    v = p.workers.size ∧ k = Worker.new own ∨ p.workers[v]? = some k := by
  have hk : (p.workers.push (Worker.new own))[v]? = some k := hk
  rw [Array.getElem?_push] at hk
  split at hk
  · case isTrue hv => exact Or.inl ⟨hv, (Option.some.inj hk).symm⟩
  · exact Or.inr hk

/-- The new worker has no jobs. -/
theorem has_of_enlisted {own : Interpreter} {id v j : Nat} (hw : (p.enlisted own id).has v j) :
    p.has v j := by
  obtain ⟨k, hk, hj⟩ := hw
  rcases getElem?_enlisted hk with ⟨-, rfl⟩ | hold
  · cases hj
  · exact ⟨k, hold, hj⟩

namespace Attended

/-! ### Steps of workers -/

variable {w : Nat}

/-- One worker changed, and left as one that is alive or is at no job. -/
theorem orderly_modify (a : Attended p) {k : Worker} {f : Worker → Worker}
    (hk : p.workers[w]? = some k) (hf : ((f k).phase ≠ .working → (f k).current = none) ∧
      ((f k).phase = .gone → (f k).queue = [])) :
    ∀ (v : Nat) (l : Worker), (p.workers.modify w f)[v]? = some l →
      (l.phase ≠ .working → l.current = none) ∧ (l.phase = .gone → l.queue = []) := by
  intro v l hl
  rw [Array.getElem?_modify] at hl
  by_cases hw : w = v
  · subst hw
    rw [if_pos rfl, hk] at hl
    cases hl
    exact hf
  · rw [if_neg hw] at hl
    exact a.orderly v l hl

/-- A worker keeps its jobs, and does not come to take more. -/
theorem keepJobs (a : Attended p) (c : Followed n i p past) {k : Worker} {f : Worker → Worker}
    (hk : p.workers[w]? = some k) (hjobs : (f k).jobs = k.jobs)
    (hphase : (f k).phase = .working → k.phase = .working)
    (hf : ((f k).phase ≠ .working → (f k).current = none) ∧
      ((f k).phase = .gone → (f k).queue = [])) :
    Attended (p.modifyWorker w f) := by
  have hsame : ∀ v l, (p.modifyWorker w f).has v l ↔ p.has v l :=
    fun v l => has_modifyWorker_of_jobs hk hjobs
  refine a.of_worker c.isolated c.conserved.nodup ⟨rfl, rfl, rfl, rfl, rfl⟩ Array.size_modify
    (a.orderly_modify hk hf) (fun v hv => ?_) (fun v l hl => ⟨(hsame v l).mp hl, rfl⟩)
    fun l job hl => ⟨job, hl, Or.inl ⟨rfl, fun v hv => (hsame v l).mpr hv⟩⟩
  rw [works_modifyWorker hk] at hv
  split at hv
  · case isTrue hw => exact hw ▸ (works_iff hk).mpr (hphase hv)
  · exact hv

theorem start (a : Attended p) (c : Followed n i p past) (hs : p.start w = some q) :
    Attended q := by
  obtain ⟨own, j, queue, hk, rfl⟩ := start_cases hs
  exact a.keepJobs c hk rfl id ⟨fun h => absurd rfl h, fun h => by cases h⟩

theorem uncount (a : Attended p) (c : Followed n i p past) (hs : p.uncount w = some q) :
    Attended q := by
  obtain ⟨k, hk, hphase, rfl⟩ := uncount_cases hs
  have hidle := (a.orderly w k hk).1 (by rw [hphase]; exact fun h => by cases h)
  have hkept := a.keepJobs c hk (f := fun k => { k with phase := .uncounted }) rfl
    (fun h => by cases h) ⟨fun _ => hidle, fun h => by cases h⟩
  exact hkept.of_eq rfl rfl rfl rfl

/-- A worker lets go of the job it is at, which gets its reply. -/
theorem letGo (a : Attended p) (c : Followed n i p past) {own : Interpreter} {queue : List Nat}
    {j : Nat} (hk : p.workers[w]? = some ⟨own, queue, some j, .working⟩) {f : Worker → Worker}
    {g : Job → Job} (hqueue : (f ⟨own, queue, some j, .working⟩).queue = queue)
    (hcurrent : (f ⟨own, queue, some j, .working⟩).current = none)
    (hphase : (f ⟨own, queue, some j, .working⟩).phase ≠ .gone)
    (hreply : ∀ job, (g job).reply ≠ .waiting)
    (hclosed : ∀ job, (g job).reply = .closed →
      (f ⟨own, queue, some j, .working⟩).phase ≠ .working) :
    Attended ((p.modifyJob j g).modifyWorker w f) := by
  have hjobs : ∀ l, ((p.modifyJob j g).modifyWorker w f).jobs[l]?
      = if j = l then (p.jobs[l]?).map g else p.jobs[l]? := fun l => Array.getElem?_modify
  have hown : p.has w j := ⟨_, hk, List.mem_cons_self⟩
  have hnot : j ∉ queue := (List.nodup_cons.mp (c.tallied.jobs_nodup_of_worker hk)).1
  have hiff : ∀ v l, ((p.modifyJob j g).modifyWorker w f).has v l ↔ p.has v l ∧ j ≠ l := by
    intro v l
    rw [has_modifyWorker (p := p.modifyJob j g) hk]
    split
    · case isTrue hw =>
      subst hw
      rw [has_iff hk]
      unfold Worker.jobs
      rw [hqueue, hcurrent]
      refine ⟨fun h => ⟨List.mem_cons_of_mem _ h, ?_⟩, ?_⟩
      · rintro rfl
        exact hnot h
      · exact fun ⟨h, hne⟩ => (List.mem_cons.mp h).resolve_left (Ne.symm hne)
    · case isFalse hne =>
      refine ⟨fun h => ⟨h, ?_⟩, And.left⟩
      rintro rfl
      exact hne (c.tallied.has_unique hown h)
  have hworks : ∀ v, ((p.modifyJob j g).modifyWorker w f).works v ↔
      if w = v then (f ⟨own, queue, some j, .working⟩).phase = .working else p.works v :=
    fun v => works_modifyWorker (p := p.modifyJob j g) hk
  refine a.of_worker c.isolated c.conserved.nodup ⟨rfl, rfl, rfl, rfl, rfl⟩ Array.size_modify
    (a.orderly_modify hk ⟨fun _ => hcurrent, fun h => absurd h hphase⟩) (fun v hv => ?_)
    (fun v l hl => ?_) fun l job hl => ?_
  · rw [hworks] at hv
    split at hv
    · case isTrue hw => exact hw ▸ ⟨_, hk, rfl⟩
    · exact hv
  · rw [hjobs, if_neg ((hiff v l).mp hl).2]
    exact ⟨((hiff v l).mp hl).1, rfl⟩
  · rw [hjobs]
    by_cases hj : j = l
    · subst hj
      rw [if_pos rfl, hl]
      refine ⟨g job, rfl, Or.inr ⟨hreply job, fun hr => ⟨w, hown, ?_⟩⟩⟩
      rw [hworks, if_pos rfl]
      exact hclosed job hr
    · rw [if_neg hj]
      exact ⟨job, hl, Or.inl ⟨rfl, fun v hv => (hiff v l).mpr ⟨hv, hj⟩⟩⟩

theorem finish (a : Attended p) (c : Followed n i p past) {cancelAt : Option Nat}
    (hs : p.finish w cancelAt = some q) : Attended q := by
  obtain ⟨own, queue, j, job, hk, hjob, -, -, rfl⟩ := finish_cases hs
  refine a.letGo c hk rfl rfl (fun h => by cases h) ?_ ?_
  · exact fun _ h => by cases h
  · exact fun _ h => by cases h

theorem die (a : Attended p) (c : Followed n i p past) (hs : p.die w = some q) : Attended q := by
  obtain ⟨own, queue, j, hk, rfl⟩ := die_cases hs
  refine a.letGo c hk rfl rfl (fun h => by cases h) ?_ ?_
  · exact fun _ h => by cases h
  · exact fun _ _ h => by cases h

/-- The jobs of a queue that is let go of get no answer, and the others stay as they are. -/
theorem getElem?_closed_eq {l : Nat} (queue : List Nat) : ∀ jobs : Array Job,
    (closed queue jobs)[l]? = if l ∈ queue then
      (jobs[l]?).map fun job => { job with reply := .closed } else jobs[l]? := by
  induction queue with
  | nil => exact fun _ => rfl
  | cons j rest ih =>
      intro jobs
      show (closed rest (jobs.modify j _))[l]? = _
      rw [ih, Array.getElem?_modify]
      by_cases hj : j = l
      · subst hj
        rw [if_pos rfl, if_pos List.mem_cons_self]
        cases jobs[j]? with
        | none => simp
        | some job => simp
      · have hmem : l ∈ j :: rest ↔ l ∈ rest := by simp [Ne.symm hj]
        simp only [if_neg hj, hmem]

theorem closeQueue (a : Attended p) (c : Followed n i p past) (hs : p.closeQueue w = some q) :
    Attended q := by
  obtain ⟨own, queue, current, hk, rfl⟩ := closeQueue_cases hs
  obtain rfl : current = none := (a.orderly w _ hk).1 fun h => by cases h
  have hworks : ∀ v, (({ p with jobs := closed queue p.jobs } : Pool).modifyWorker w fun k =>
      { k with queue := [], phase := .gone }).works v → w ≠ v ∧ p.works v := by
    intro v hv
    rw [works_modifyWorker (p := { p with jobs := closed queue p.jobs }) hk] at hv
    split at hv
    · cases hv
    · case isFalse hne => exact ⟨hne, hv⟩
  have hiff : ∀ v l, (({ p with jobs := closed queue p.jobs } : Pool).modifyWorker w fun k =>
      { k with queue := [], phase := .gone }).has v l ↔ p.has v l ∧ l ∉ queue := by
    intro v l
    rw [has_modifyWorker (p := { p with jobs := closed queue p.jobs }) hk]
    split
    · case isTrue hw =>
      subst hw
      rw [has_iff hk]
      exact ⟨fun h => absurd h List.not_mem_nil, fun ⟨h, hnot⟩ => absurd h hnot⟩
    · case isFalse hne =>
      refine ⟨fun h => ⟨h, fun hmem => ?_⟩, And.left⟩
      exact hne (c.tallied.has_unique ⟨_, hk, hmem⟩ h)
  refine a.of_worker c.isolated c.conserved.nodup ⟨rfl, rfl, rfl, rfl, rfl⟩ Array.size_modify
    (a.orderly_modify hk ⟨fun _ => rfl, fun _ => rfl⟩) (fun v hv => (hworks v hv).2)
    (fun v l hl => ?_) fun l job hl => ?_
  · refine ⟨((hiff v l).mp hl).1, ?_⟩
    show (closed queue p.jobs)[l]? = _
    rw [getElem?_closed_eq, if_neg ((hiff v l).mp hl).2]
  · show ∃ later, (closed queue p.jobs)[l]? = _ ∧ _
    rw [getElem?_closed_eq, hl]
    by_cases hmem : l ∈ queue
    · rw [if_pos hmem]
      refine ⟨{ job with reply := .closed }, rfl, Or.inr ⟨?_, fun _ => ?_⟩⟩
      · exact fun h => by cases h
      · exact ⟨w, ⟨_, hk, hmem⟩, fun hv => (hworks w hv).1 rfl⟩
    · rw [if_neg hmem]
      exact ⟨job, rfl, Or.inl ⟨rfl, fun v hv => (hiff v l).mpr ⟨hv, hmem⟩⟩⟩

/-! ### Steps of callers -/

variable {h : Nat}

theorem takePermit (a : Attended p) (hs : p.takePermit = some q) : Attended q := by
  obtain ⟨-, rfl⟩ := takePermit_cases hs
  have hposts : ∀ w, ({ p with
      permits := p.permits - 1
      handles := (p.nextHandle, .permitted) :: p.handles
      nextHandle := p.nextHandle + 1 } : Pool).posts w = p.posts w := by
    intro w
    unfold posts
    rw [countP_cons_toNat, uses_permitted, Bool.toNat_false, Nat.zero_add]
  -- the new handle holds no slot
  have hother : ∀ e ∈ (p.nextHandle, Holding.permitted) :: p.handles, ∀ slot state,
      e.2 = .held slot state → e ∈ p.handles := by
    intro e he slot state hheld
    rcases List.mem_cons.mp he with rfl | he
    · cases hheld
    · exact he
  refine ⟨fun w => ?_, fun w hw => ?_, fun w hw => ?_, a.orderly, fun w j hw => ?_,
    fun e he slot j hwaits => a.awaited e (hother e he slot _ hwaits) slot j hwaits,
    fun e he slot j hwaits => a.last e (hother e he slot _ hwaits) slot j hwaits,
    fun e he slot hdead => a.dead e (hother e he slot _ hdead) slot hdead⟩
  · rw [hposts]
    exact a.posted w
  · rw [hposts]
    exact a.present w hw
  · rw [hposts]
    exact a.retired w hw
  · obtain ⟨job, hjob, hwaiting, hcancelled | ⟨e, he, hslot⟩⟩ := a.kept w j hw
    · exact ⟨job, hjob, hwaiting, Or.inl hcancelled⟩
    · exact ⟨job, hjob, hwaiting, Or.inr ⟨e, List.mem_cons_of_mem _ he, hslot⟩⟩

theorem popSlot (a : Attended p) (c : Conserved n p) (hs : p.popSlot h = some q) :
    Attended q := by
  obtain ⟨hh, ⟨slot, rest, hfree, rfl⟩ | ⟨hfree, -⟩⟩ := popSlot_cases hs
  · have hmoved : ∀ w, rest.countP (·.worker == w) + ((Holding.held slot .idle).uses w).toNat
        = p.free.countP (·.worker == w) + (Holding.permitted.uses w).toNat := by
      intro w
      rw [hfree, countP_cons_toNat, uses_held, uses_permitted, Bool.toNat_false, Nat.add_zero,
        Nat.add_comm]
    refine a.hold c.nodup _ rest hh (fun w => Nat.le_of_eq (hmoved w))
      (fun w _ => Nat.le_of_eq (hmoved w).symm) (fun _ _ heq => by cases heq)
      fun slot' state heq => ?_
    cases heq
    exact Or.inl rfl
  · exact absurd hfree (c.free_ne_nil hh)

/-- One more job that is with no worker. -/
theorem pushJob (a : Attended p) (job : Job) : Attended { p with jobs := p.jobs.push job } where
  posted := a.posted
  present := a.present
  retired := a.retired
  orderly := a.orderly
  kept := fun w j hw => by
    obtain ⟨old, hold, hrest⟩ := a.kept w j hw
    exact ⟨old, getElem?_push_of_some _ hold, hrest⟩
  awaited := fun e he slot j hwaits => by
    obtain ⟨old, hold, hrest⟩ := a.awaited e he slot j hwaits
    exact ⟨old, getElem?_push_of_some _ hold, hrest⟩
  last := a.last
  dead := a.dead

theorem lt_of_has (a : Attended p) {w j : Nat} (hw : p.has w j) : j < p.jobs.size := by
  obtain ⟨job, hjob, -⟩ := a.kept w j hw
  exact (Array.getElem?_eq_some_iff.mp hjob).1

/-- A job that is sent joins the queue of the worker of its caller's slot, and is the last one
there. -/
theorem enqueue (a : Attended p) (c : Followed n i p past) {slot : Slot} {k : Worker}
    {request : EvalRequest} (hh : p.holding? h = some (.held slot .idle))
    (hk : p.workers[slot.worker]? = some k) (hlive : k.phase ≠ .gone) :
    Attended (p.enqueued h slot request) := by
  have hn := c.conserved.nodup
  have hhas := has_enqueued h request hk
  have hworks := works_enqueued h request hk
  have hposts : ∀ w, (p.enqueued h slot request).posts w = p.posts w :=
    posts_hold_held hn hh (.running p.jobs.size)
  have hother : ∀ e ∈ p.handles, e.1 ≠ h →
      e ∈ (p.hold h (.held slot (.running p.jobs.size))).handles :=
    fun e he hne => List.mem_map.mpr ⟨e, he, if_neg hne⟩
  have hown : (h, Holding.held slot (.running p.jobs.size))
      ∈ (p.hold h (.held slot (.running p.jobs.size))).handles :=
    mem_of_holding (holding_hold hn hh)
  have hnew : ∀ v, ¬ p.has v p.jobs.size := fun v hv => Nat.lt_irrefl _ (a.lt_of_has hv)
  refine ⟨fun w => ?_, fun w hw => ?_, fun w hw => ?_, a.orderly_modify hk ?_, fun w j hw => ?_,
    fun e he slot' j hwaits => ?_, fun e he slot' j hwaits l hl => ?_,
    fun e he slot' hdead hw => ?_⟩
  · exact hposts w ▸ a.posted w
  · refine (hposts w).trans (a.present w ?_)
    exact Nat.le_trans (Nat.le_of_eq Array.size_modify.symm) hw
  · exact Nat.lt_of_lt_of_eq (a.retired w ((hworks w).mp hw)) (hposts w).symm
  · exact ⟨(a.orderly _ k hk).1, fun hgone => absurd hgone hlive⟩
  · show ∃ job, (p.jobs.push ⟨request, false, .waiting⟩)[j]? = some job ∧ _
    rcases (hhas w j).mp hw with hold | ⟨hslot, rfl⟩
    · obtain ⟨job, hjob, hwaiting, hcancelled | ⟨e, he, slot', hwaits, hslot⟩⟩ := a.kept w j hold
      · exact ⟨job, getElem?_push_of_some _ hjob, hwaiting, Or.inl hcancelled⟩
      · refine ⟨job, getElem?_push_of_some _ hjob, hwaiting,
          Or.inr ⟨e, hother e he ?_, slot', hwaits, hslot⟩⟩
        rintro rfl
        have hfound := holding_of_mem hn (show (e.1, e.2) ∈ p.handles from he)
        rw [hh, hwaits] at hfound
        cases hfound
    · exact ⟨_, Array.getElem?_push_size, rfl, Or.inr ⟨_, hown, slot, rfl, hslot⟩⟩
  · show ∃ job, (p.jobs.push ⟨request, false, .waiting⟩)[j]? = some job ∧ _
    rcases mem_hold he with rfl | ⟨hmem, -⟩
    · cases hwaits
      exact ⟨_, Array.getElem?_push_size, fun _ => (hhas _ _).mpr (Or.inr ⟨rfl, rfl⟩),
        fun hr => by cases hr⟩
    · obtain ⟨job, hjob, hwaiting, hclosed⟩ := a.awaited e hmem slot' j hwaits
      exact ⟨job, getElem?_push_of_some _ hjob, fun hr => (hhas _ _).mpr (Or.inl (hwaiting hr)),
        fun hr hw => hclosed hr ((hworks _).mp hw)⟩
  · rcases mem_hold he with rfl | ⟨hmem, hne⟩
    · cases hwaits
      rcases (hhas _ l).mp hl with hold | ⟨-, rfl⟩
      · exact Nat.le_of_lt (a.lt_of_has hold)
      · exact Nat.le_refl _
    · rcases (hhas _ l).mp hl with hold | ⟨hslot, -⟩
      · exact a.last e hmem slot' j hwaits l hold
      · -- no other handle has a slot with this worker
        have heq := a.eq_of_uses hmem (mem_of_holding hh) (w := slot.worker)
          (by rw [hwaits]; simpa using hslot.symm) (by simp)
        exact absurd (congrArg Prod.fst heq) hne
  · rcases mem_hold he with rfl | ⟨hmem, -⟩
    · cases hdead
    · exact a.dead e hmem slot' hdead ((hworks _).mp hw)

theorem send (a : Attended p) (c : Followed n i p past) {request : EvalRequest}
    (hs : p.send h request = some q) : Attended q := by
  obtain ⟨slot, k, hh, hk, ⟨hgone, rfl⟩ | ⟨hlive, rfl⟩⟩ := send_cases hs
  · have hdead : ¬ p.works slot.worker := by
      rw [works_iff hk, hgone]
      exact fun h => by cases h
    have hkept := (a.pushJob ⟨request, false, .closed⟩).hold_held
      c.conserved.nodup .dead hh (fun j hj => by cases hj) (Or.inr ⟨rfl, hdead⟩)
    exact hkept.of_eq rfl rfl rfl rfl
  · exact a.enqueue c hh hk hlive

theorem receive (a : Attended p) (c : Followed n i p past) (hs : p.receive h = some q) :
    Attended q := by
  obtain ⟨slot, j, job, hh, hjob, hq⟩ := receive_cases hs
  obtain ⟨job', hjob', -, hclosed⟩ := a.awaited _ (mem_of_holding hh) slot j rfl
  obtain rfl : job = job' := Option.some.inj (hjob.symm.trans hjob')
  have hgone : job.reply ≠ .waiting → ∀ l, SlotState.running j = .running l → ∀ w, ¬ p.has w l := by
    intro hreply l hl w
    cases hl
    exact a.not_has_of_reply hjob hreply
  rcases hq with ⟨o, hreply, rfl⟩ | ⟨t, hreply, rfl⟩ | ⟨hreply, rfl⟩
  · have hkept := a.hold_held c.conserved.nodup .idle hh
      (hgone (by rw [hreply]; exact fun h => by cases h)) (Or.inl rfl)
    exact hkept.of_eq rfl rfl rfl rfl
  · have hkept := a.hold_held c.conserved.nodup .idle hh
      (hgone (by rw [hreply]; exact fun h => by cases h)) (Or.inl rfl)
    exact hkept.of_eq rfl rfl rfl rfl
  · have hkept := a.hold_held c.conserved.nodup .dead hh
      (hgone (by rw [hreply]; exact fun h => by cases h)) (Or.inr ⟨rfl, hclosed hreply⟩)
    exact hkept.of_eq rfl rfl rfl rfl

/-- A job that is given up on stays where it is. -/
theorem cancel (a : Attended p) (j : Nat) :
    Attended (p.modifyJob j fun job => { job with cancelled := true }) := by
  have hget : ∀ (l : Nat) (job : Job), p.jobs[l]? = some job → ∃ later,
      (p.jobs.modify j fun job => { job with cancelled := true })[l]? = some later ∧
        later.reply = job.reply ∧ (job.cancelled = true → later.cancelled = true) := by
    intro l job hl
    rw [Array.getElem?_modify, hl]
    split
    · exact ⟨_, rfl, rfl, fun _ => rfl⟩
    · exact ⟨job, rfl, rfl, id⟩
  refine ⟨a.posted, a.present, a.retired, a.orderly, fun w l hw => ?_, fun e he slot l hwaits => ?_,
    a.last, a.dead⟩
  · obtain ⟨job, hjob, hwaiting, hwhy⟩ := a.kept w l hw
    obtain ⟨later, hlater, hreply, hcancelled⟩ := hget l job hjob
    exact ⟨later, hlater, hreply.trans hwaiting, hwhy.imp_left hcancelled⟩
  · obtain ⟨job, hjob, hwaiting, hclosed⟩ := a.awaited e he slot l hwaits
    obtain ⟨later, hlater, hreply, -⟩ := hget l job hjob
    exact ⟨later, hlater, fun hr => hwaiting (hreply ▸ hr), fun hr => hclosed (hreply ▸ hr)⟩

/-- A worker that no slot has had before is given to one. -/
theorem enlist (a : Attended p) (own : Interpreter) (id : Nat) :
    Attended (p.enlisted own id) := by
  -- the slots that handles hold do not have it
  have hworks : ∀ e ∈ p.handles, ∀ slot state, e.2 = .held slot state →
      (p.enlisted own id).works slot.worker → p.works slot.worker := by
    rintro e he slot state hheld ⟨k, hk, hphase⟩
    rcases getElem?_enlisted hk with ⟨hv, -⟩ | hold
    · have hnone := a.present slot.worker (Nat.le_of_eq hv.symm)
      have hpos : 0 < p.handles.countP (·.2.uses slot.worker) :=
        List.countP_pos_iff.mpr ⟨e, he, by rw [hheld]; simp⟩
      unfold posts at hnone
      omega
    · exact ⟨k, hold, hphase⟩
  refine ⟨fun w => ?_, fun w hw => ?_, fun w hw => ?_, fun v l hl => ?_, fun w j hw => ?_,
    fun e he slot j hwaits => ?_, fun e he slot j hwaits l hl => ?_, fun e he slot hdead hw => ?_⟩
  · rw [posts_enlisted]
    by_cases hw : p.workers.size = w
    · rw [a.present w (Nat.le_of_eq hw)]
      exact Bool.toNat_le _
    · rw [beq_false_of_ne hw, Bool.toNat_false, Nat.zero_add]
      exact a.posted w
  · have hlt : p.workers.size + 1 ≤ w := by rw [← Array.size_push]; exact hw
    rw [posts_enlisted, beq_false_of_ne (Nat.ne_of_lt hlt), a.present w (Nat.le_of_succ_le hlt)]
    rfl
  · rw [posts_enlisted]
    obtain ⟨k, hk, hphase⟩ := hw
    rcases getElem?_enlisted hk with ⟨rfl, -⟩ | hold
    · rw [beq_self_eq_true]
      exact Nat.lt_of_lt_of_le Nat.zero_lt_one (Nat.le_add_right _ _)
    · exact Nat.lt_of_lt_of_le (a.retired w ⟨k, hold, hphase⟩) (Nat.le_add_left _ _)
  · rcases getElem?_enlisted hl with ⟨-, rfl⟩ | hold
    · exact ⟨fun _ => rfl, fun _ => rfl⟩
    · exact a.orderly v l hold
  · exact a.kept w j (has_of_enlisted hw)
  · obtain ⟨job, hjob, hwaiting, hclosed⟩ := a.awaited e he slot j hwaits
    refine ⟨job, hjob, fun hr => ?_, fun hr hw => hclosed hr (hworks e he slot _ hwaits hw)⟩
    obtain ⟨k, hk, hmem⟩ := hwaiting hr
    exact ⟨k, getElem?_push_of_some _ hk, hmem⟩
  · exact a.last e he slot j hwaits l (has_of_enlisted hl)
  · exact a.dead e he slot hdead (hworks e he slot _ hdead hw)

theorem dropHandle (a : Attended p) (c : Followed n i p past) (hs : p.dropHandle h = some q) :
    Attended q := by
  obtain ⟨slot, state, hh, hq⟩ := dropHandle_cases hs
  have hback : ∀ w, (slot :: p.free).countP (·.worker == w) + (Holding.dropped.uses w).toNat
      = p.free.countP (·.worker == w) + ((Holding.held slot state).uses w).toNat := by
    intro w
    rw [countP_cons_toNat, uses_held, uses_dropped, Bool.toNat_false, Nat.add_zero, Nat.add_comm]
  rcases hq with ⟨rfl, rfl⟩ | ⟨j, rfl, rfl⟩ | ⟨rfl, rfl⟩
  · exact a.hold c.conserved.nodup _ (slot :: p.free) hh (fun w => Nat.le_of_eq (hback w))
      (fun w _ => Nat.le_of_eq (hback w).symm) (fun _ _ heq => by cases heq)
      fun _ _ heq => by cases heq
  · have hgivenUp := (a.cancel j).hold c.conserved.nodup .dropped (slot :: p.free) hh
      (fun w => Nat.le_of_eq (hback w)) (fun w _ => Nat.le_of_eq (hback w).symm) ?_
      fun _ _ heq => by cases heq
    · exact hgivenUp.of_eq rfl rfl rfl rfl
    · intro slot' l heq w _
      cases heq
      obtain ⟨job, hjob, -⟩ := a.awaited _ (mem_of_holding hh) slot j rfl
      refine ⟨{ job with cancelled := true }, ?_, rfl⟩
      show (p.jobs.modify j _)[j]? = _
      rw [Array.getElem?_modify, if_pos rfl, hjob]
      rfl
  · -- the slot is let go of first, which takes it from no worker that takes jobs
    have hgone : ¬ p.works slot.worker := a.dead _ (mem_of_holding hh) slot rfl
    have hleft := a.hold c.conserved.nodup .dropped p.free hh (fun w => ?_) (fun w hw => ?_)
      (fun _ _ heq => by cases heq) fun _ _ heq => by cases heq
    · exact (hleft.enlist p.fresh slot.id).of_eq rfl rfl rfl rfl
    · rw [uses_dropped, Bool.toNat_false]
      exact Nat.le_add_right _ _
    · have hne : slot.worker ≠ w := fun heq => hgone (heq ▸ hw)
      rw [uses_held, beq_false_of_ne hne]
      exact Nat.le_refl _

theorem returnPermit (a : Attended p) (c : Conserved n p) (hs : p.returnPermit h = some q) :
    Attended q := by
  obtain ⟨hdropped, rfl⟩ := returnPermit_cases hs
  obtain ⟨old, hh, hnone⟩ : ∃ old, p.holding? h = some old ∧
      ∀ slot state, old ≠ .held slot state := by
    rcases hdropped with hh | hh
    · exact ⟨_, hh, fun _ _ heq => by cases heq⟩
    · exact ⟨_, hh, fun _ _ heq => by cases heq⟩
  have hposts : ∀ w, p.free.countP (·.worker == w)
      + (p.handles.filter fun e => e.1 ≠ h).countP (·.2.uses w) = p.posts w := by
    intro w
    have hcount := countP_filter_handles (Holding.uses w) c.nodup hh
    have hunused : old.uses w = false := by
      cases old with
      | held slot state => exact absurd rfl (hnone slot state)
      | _ => rfl
    rw [hunused, Bool.toNat_false] at hcount
    unfold posts
    omega
  have hsub : ∀ e ∈ p.handles.filter fun e => e.1 ≠ h, e ∈ p.handles :=
    fun e he => List.mem_of_mem_filter he
  refine ⟨fun w => ?_, fun w hw => ?_, fun w hw => ?_, a.orderly, fun w j hw => ?_,
    fun e he => a.awaited e (hsub e he), fun e he => a.last e (hsub e he),
    fun e he => a.dead e (hsub e he)⟩
  · exact Nat.le_trans (Nat.le_of_eq (hposts w)) (a.posted w)
  · exact (hposts w).trans (a.present w hw)
  · exact Nat.lt_of_lt_of_eq (a.retired w hw) (hposts w).symm
  · obtain ⟨job, hjob, hwaiting, hcancelled | ⟨e, he, slot, hwaits, hslot⟩⟩ := a.kept w j hw
    · exact ⟨job, hjob, hwaiting, Or.inl hcancelled⟩
    · refine ⟨job, hjob, hwaiting, Or.inr ⟨e, List.mem_filter.mpr ⟨he, ?_⟩, slot, hwaits, hslot⟩⟩
      have hne : e.1 ≠ h := by
        rintro rfl
        have hfound := holding_of_mem c.nodup (show (e.1, e.2) ∈ p.handles from he)
        rw [hh, hwaits] at hfound
        exact hnone slot _ (Option.some.inj hfound)
      simpa using hne

/-- Every step leaves workers and jobs where they belong. -/
theorem step? (a : Attended p) (c : Followed n i p past) {e : Event} (hs : p.step? e = some q) :
    Attended q := by
  cases e with
  | takePermit => exact a.takePermit hs
  | popSlot h => exact a.popSlot c.conserved hs
  | send h request => exact a.send c hs
  | start w => exact a.start c hs
  | finish w cancelAt => exact a.finish c hs
  | die w => exact a.die c hs
  | uncount w => exact a.uncount c hs
  | closeQueue w => exact a.closeQueue c hs
  | receive h => exact a.receive c hs
  | dropHandle h => exact a.dropHandle c hs
  | returnPermit h => exact a.returnPermit c.conserved hs

theorem steps? : ∀ (es : List Event) {p : Pool} {past : List Deed}, Attended p →
    Followed n i p past → p.steps? es = some q → Attended q := by
  intro es
  induction es with
  | nil =>
      intro p past a _ hs
      cases hs
      exact a
  | cons e rest ih =>
      intro p past a c hs
      rw [steps?_cons] at hs
      obtain ⟨mid, hmid, hrest⟩ := Option.bind_eq_some_iff.mp hs
      exact ih (a.step? c hmid) (c.step? hmid) hrest

end Attended

/-! ### Every reachable state -/

theorem attended_new (size : Nat) (i : Interpreter) : Attended (new size i) := by
  have hposts : ∀ w, (new size i).posts w = (List.range size).count w := by
    intro w
    show ((List.range size).map fun i => (⟨i, i⟩ : Slot)).reverse.countP _ + 0 = _
    rw [List.countP_reverse, List.countP_map]
    rfl
  have hworker : ∀ {w : Nat} {k : Worker}, (new size i).workers[w]? = some k →
      w < size ∧ k = Worker.new i := by
    intro w k hk
    have hk : (Array.replicate size (Worker.new i))[w]? = some k := hk
    rw [Array.getElem?_replicate] at hk
    split at hk
    · case isTrue hw => exact ⟨hw, (Option.some.inj hk).symm⟩
    · cases hk
  refine ⟨fun w => ?_, fun w hw => ?_, fun w hw => ?_, fun w k hk => ?_, fun w j hw => ?_,
    fun e he => absurd he List.not_mem_nil, fun e he => absurd he List.not_mem_nil,
    fun e he => absurd he List.not_mem_nil⟩
  · rw [hposts]
    exact List.nodup_iff_count_le_one.mp List.nodup_range w
  · rw [hposts]
    refine List.count_eq_zero_of_not_mem fun hmem => ?_
    have hw : (Array.replicate size (Worker.new i)).size ≤ w := hw
    rw [Array.size_replicate] at hw
    exact Nat.not_lt.mpr hw (List.mem_range.mp hmem)
  · obtain ⟨k, hk, -⟩ := hw
    rw [hposts]
    exact List.count_pos_iff.mpr (List.mem_range.mpr (hworker hk).1)
  · obtain ⟨-, rfl⟩ := hworker hk
    exact ⟨fun _ => rfl, fun _ => rfl⟩
  · obtain ⟨k, hk, hmem⟩ := hw
    obtain ⟨-, rfl⟩ := hworker hk
    cases hmem

/-- **Every worker that takes jobs has a slot, and no other worker has the same one**, in every
state that a pool can be in. -/
theorem attended_of_steps? {size : Nat} {es : List Event} (hs : (new size i).steps? es = some p) :
    Attended p :=
  Attended.steps? es (attended_new size i)
    ⟨conserved_new size i, isolated_new size i, tallied_new size i, recorded_new size i⟩ hs

end Lookout.Pool
