/-
Whose death costs whom an evaluation.

A caller loses its evaluation when its worker dies in the job.  It also loses it when the worker of
its slot had died before, in a job that an earlier caller had given up on: a slot whose job was
given up goes back as it is, and nobody looks whether its worker survives that job.  There is no
third way: `explained_of_steps?` says so of every run.

To know it one has to know of every slot, free or held, why its worker is dead if it is; that is
`Explained`.  A death alone does not explain a loss that is noticed only later: the job in which the
worker died must have been given up, since a caller that is told of the death has the worker
replaced.
-/
import Lookout.Proofs.Pool.Attended
import Lookout.Proofs.Pool.Frame

namespace Lookout.Pool

open Script (Interpreter Outcome Trouble)

/-- What a worker has to do with a job. -/
inductive Fate where
  /-- The job is sent to the worker. -/
  | given (worker job : Nat)
  /-- The worker dies inside the job. -/
  | died (worker job : Nat)

/-- Which job is given to a worker, or costs one its life, in a step. -/
def fatesIn (p : Pool) : Event → List Fate
  | .send h _ =>
    match p.holding? h with
    | some (.held slot _) => [.given slot.worker p.jobs.size]
    | _ => []
  | .die w =>
    match (p.workers[w]?).bind Worker.current with
    | some j => [.died w j]
    | none => []
  | _ => []

/-- Which jobs are given to workers, and cost them their lives, in a run. -/
def fates (p : Pool) : List Event → List Fate
  | [] => []
  | e :: es =>
    match p.step? e with
    | some q => p.fatesIn e ++ q.fates es
    | none => []

/-- A worker died in a job that was sent before another one and that its caller gave up on. -/
def Outlived (past : List Deed) (known : List Fate) (w j : Nat) : Prop :=
  ∃ h k, k < j ∧ .died w k ∈ known ∧ .abandoned h k ∈ past

/-- Why the worker of a slot is dead, if it is. -/
def Excused (p : Pool) (past : List Deed) (known : List Fate) (slot : Slot) : SlotState → Prop
  | .idle => ¬ p.works slot.worker → Outlived past known slot.worker p.jobs.size
  | .running j => .given slot.worker j ∈ known ∧
    (¬ p.works slot.worker → .died slot.worker j ∈ known ∨ Outlived past known slot.worker j)
  | .dead => True

/-- Every worker that is dead has died in a job, and whoever was told of a loss has lost its job to
the death of the worker that had it. -/
structure Explained (p : Pool) (past : List Deed) (known : List Fate) : Prop where
  /-- A job in which a worker died never gets an answer. -/
  closed : ∀ w j, .died w j ∈ known → ∃ job, p.jobs[j]? = some job ∧ job.reply = .closed
  free : ∀ slot ∈ p.free, Excused p past known slot .idle
  held : ∀ e ∈ p.handles, ∀ slot state, e.2 = .held slot state → Excused p past known slot state
  lost : ∀ h j e, .lost h j e ∈ past →
    ∃ w, .given w j ∈ known ∧ (.died w j ∈ known ∨ Outlived past known w j)

variable {n : Nat} {i : Interpreter} {p q : Pool} {past : List Deed} {known : List Fate}
  {e : Event}

/-! ### What a step keeps -/

theorem size_step? (hs : p.step? e = some q) : p.jobs.size ≤ q.jobs.size := by
  by_contra hlt
  obtain ⟨job, hjob⟩ : ∃ job, p.jobs[q.jobs.size]? = some job :=
    ⟨_, Array.getElem?_eq_getElem (Nat.lt_of_not_le hlt)⟩
  obtain ⟨later, hlater, -⟩ := SameRequests.step? hs _ job hjob
  exact Nat.lt_irrefl _ (Array.getElem?_eq_some_iff.mp hlater).1

/-- A worker that takes jobs does so until it dies. -/
theorem works_step? {w : Nat} (hs : p.step? e = some q) (hw : p.works w) (he : e ≠ .die w) :
    q.works w := by
  -- a worker is changed by its own steps, and these do not end its work
  have hmodify : ∀ {r : Pool} {v : Nat} {k : Worker} {f : Worker → Worker},
      r.workers = p.workers → p.workers[v]? = some k →
      (k.phase = .working → v = w → (f k).phase = .working) → (r.modifyWorker v f).works w := by
    intro r v k f hr hk hf
    refine (works_modifyWorker (hr ▸ hk)).mpr ?_
    split
    · case isTrue hv =>
      subst hv
      exact hf ((works_iff hk).mp hw) rfl
    · obtain ⟨k', hk', hphase⟩ := hw
      exact ⟨k', hr ▸ hk', hphase⟩
  cases e with
  | start v =>
      obtain ⟨_, _, _, hk, rfl⟩ := start_cases hs
      exact hmodify rfl hk fun h _ => h
  | finish v cancelAt =>
      obtain ⟨_, _, _, _, hk, _, _, _, rfl⟩ := finish_cases hs
      exact hmodify rfl hk fun h _ => h
  | die v =>
      obtain ⟨_, _, _, hk, rfl⟩ := die_cases hs
      exact hmodify rfl hk fun _ hv => absurd (congrArg Event.die hv) he
  | uncount v =>
      obtain ⟨k, hk, hphase, rfl⟩ := uncount_cases hs
      exact hmodify rfl hk fun h _ => by rw [hphase] at h; cases h
  | closeQueue v =>
      obtain ⟨_, queue, _, hk, rfl⟩ := closeQueue_cases hs
      exact hmodify rfl hk fun h _ => by cases h
  | send h request =>
      obtain ⟨_, k, _, hk, ⟨_, rfl⟩ | ⟨_, rfl⟩⟩ := send_cases hs
      · exact hw
      · exact hmodify (r := { p with jobs := p.jobs.push ⟨request, false, .waiting⟩ }) rfl hk
          fun h _ => h
  | dropHandle h =>
      obtain ⟨_, _, _, ⟨_, rfl⟩ | ⟨_, _, rfl⟩ | ⟨_, rfl⟩⟩ := dropHandle_cases hs
      · exact hw
      · exact hw
      · obtain ⟨k, hk, hphase⟩ := hw
        exact ⟨k, getElem?_push_of_some _ hk, hphase⟩
  | takePermit =>
      obtain ⟨-, rfl⟩ := takePermit_cases hs
      exact hw
  | popSlot h =>
      obtain ⟨-, ⟨_, _, -, rfl⟩ | ⟨-, rfl⟩⟩ := popSlot_cases hs
      · exact hw
      · exact hw
  | receive h =>
      obtain ⟨_, _, _, -, -, ⟨_, -, rfl⟩ | ⟨_, -, rfl⟩ | ⟨-, rfl⟩⟩ := receive_cases hs
      · exact hw
      · exact hw
      · exact hw
  | returnPermit h =>
      obtain ⟨-, rfl⟩ := returnPermit_cases hs
      exact hw

/-- A job that was let go of without an answer never gets one. -/
theorem Attended.closed_step? (a : Attended p) (hs : p.step? e = some q) {j : Nat} {job : Job}
    (hjob : p.jobs[j]? = some job) (hclosed : job.reply = .closed) :
    ∃ later, q.jobs[j]? = some later ∧ later.reply = .closed := by
  have hmodify : ∀ {k : Nat} {g : Job → Job}, (k = j → (g job).reply = .closed) →
      ∃ later, (p.jobs.modify k g)[j]? = some later ∧ later.reply = .closed := by
    intro k g hg
    rw [Array.getElem?_modify, hjob]
    split
    · case isTrue hk => exact ⟨g job, rfl, hg hk⟩
    · exact ⟨job, rfl, hclosed⟩
  cases e with
  | finish w cancelAt =>
      obtain ⟨own, queue, k, _, hk, _, _, _, rfl⟩ := finish_cases hs
      refine hmodify (g := fun old => { old with reply := .answered _ }) fun heq => ?_
      -- the job of a worker has no reply yet
      have hat : p.has w j := ⟨_, hk, heq ▸ List.mem_cons_self⟩
      exact absurd hat (a.not_has_of_reply hjob (by rw [hclosed]; exact fun h => by cases h))
  | die w =>
      obtain ⟨_, _, k, _, rfl⟩ := die_cases hs
      exact hmodify (g := fun old => { old with reply := .closed }) fun _ => rfl
  | closeQueue w =>
      obtain ⟨_, queue, _, _, rfl⟩ := closeQueue_cases hs
      show ∃ later, (Pool.closed queue p.jobs)[j]? = _ ∧ _
      rw [getElem?_closed_eq, hjob]
      split
      · exact ⟨_, rfl, rfl⟩
      · exact ⟨job, rfl, hclosed⟩
  | send h request =>
      obtain ⟨_, _, _, _, ⟨_, rfl⟩ | ⟨_, rfl⟩⟩ := send_cases hs
      · exact ⟨job, getElem?_push_of_some _ hjob, hclosed⟩
      · exact ⟨job, getElem?_push_of_some _ hjob, hclosed⟩
  | dropHandle h =>
      obtain ⟨_, _, _, ⟨_, rfl⟩ | ⟨_, _, rfl⟩ | ⟨_, rfl⟩⟩ := dropHandle_cases hs
      · exact ⟨job, hjob, hclosed⟩
      · exact hmodify (g := fun old => { old with cancelled := true }) fun _ => hclosed
      · exact ⟨job, hjob, hclosed⟩
  | receive h =>
      obtain ⟨_, _, _, -, -, ⟨_, -, rfl⟩ | ⟨_, -, rfl⟩ | ⟨-, rfl⟩⟩ := receive_cases hs
      · exact ⟨job, hjob, hclosed⟩
      · exact ⟨job, hjob, hclosed⟩
      · exact ⟨job, hjob, hclosed⟩
  | popSlot h =>
      obtain ⟨-, ⟨_, _, -, rfl⟩ | ⟨-, rfl⟩⟩ := popSlot_cases hs
      · exact ⟨job, hjob, hclosed⟩
      · exact ⟨job, hjob, hclosed⟩
  | takePermit =>
      obtain ⟨-, rfl⟩ := takePermit_cases hs
      exact ⟨job, hjob, hclosed⟩
  | start w =>
      obtain ⟨_, _, _, _, rfl⟩ := start_cases hs
      exact ⟨job, hjob, hclosed⟩
  | uncount w =>
      obtain ⟨_, _, _, rfl⟩ := uncount_cases hs
      exact ⟨job, hjob, hclosed⟩
  | returnPermit h =>
      obtain ⟨-, rfl⟩ := returnPermit_cases hs
      exact ⟨job, hjob, hclosed⟩

/-- Who is told of a loss has just sent the job, or was waiting for it. -/
theorem lost_mem_deeds {h j : Nat} {e' : EvalError} (hd : .lost h j e' ∈ p.deeds e) :
    (∃ request, e = .send h request) ∨ e = .receive h := by
  rcases mem_deeds hd with ⟨_, request, he, heq | ⟨_, heq⟩⟩ | ⟨_, _, _, heq⟩ |
    ⟨_, _, _, _, _, heq⟩ | ⟨k, slot, l, job, he, -, -, hmem⟩ | ⟨_, _, _, _, _, heq⟩
  · cases heq
  · cases heq
    exact Or.inl ⟨request, he⟩
  · cases heq
  · cases heq
  · unfold Reply.deeds at hmem
    split at hmem
    · cases hmem
    · cases List.mem_singleton.mp hmem
    · cases List.mem_singleton.mp hmem
      exact Or.inr he
  · cases heq

theorem fatesIn_send {h : Nat} {request : EvalRequest} {slot : Slot} {state : SlotState}
    (hh : p.holding? h = some (.held slot state)) :
    p.fatesIn (.send h request) = [.given slot.worker p.jobs.size] := by
  simp only [fatesIn, hh]

theorem fatesIn_die {w j : Nat} {k : Worker} (hk : p.workers[w]? = some k)
    (hj : k.current = some j) : p.fatesIn (.die w) = [.died w j] := by
  simp only [fatesIn, hk, Option.bind_some, hj]

/-! ### Excuses -/

section Mono

variable {past' : List Deed} {known' : List Fate}

theorem Outlived.mono {w j j' : Nat} (o : Outlived past known w j) (hpast : past ⊆ past')
    (hknown : known ⊆ known') (hj : j ≤ j') : Outlived past' known' w j' := by
  obtain ⟨h, k, hlt, hdied, habandoned⟩ := o
  exact ⟨h, k, Nat.lt_of_lt_of_le hlt hj, hknown hdied, hpast habandoned⟩

theorem Excused.mono {slot : Slot} {state : SlotState} (x : Excused p past known slot state)
    (hworks : p.works slot.worker → q.works slot.worker) (hsize : p.jobs.size ≤ q.jobs.size)
    (hpast : past ⊆ past') (hknown : known ⊆ known') : Excused q past' known' slot state := by
  cases state with
  | idle => exact fun hgone => (x fun hw => hgone (hworks hw)).mono hpast hknown hsize
  | running j =>
      refine ⟨hknown x.1, fun hgone => ?_⟩
      exact (x.2 fun hw => hgone (hworks hw)).imp (fun h => hknown h)
        fun o => o.mono hpast hknown (Nat.le_refl _)
  | dead => trivial

end Mono

namespace Explained

/-- Without a death in the step, what is left to show is about the slots that it moves and the
callers that it tells of a loss. -/
theorem carry (x : Explained p past known) (a : Attended p) (hs : p.step? e = some q)
    (added : List Fate) (he : ∀ w, e ≠ .die w) (hadded : ∀ w j, .died w j ∉ added)
    (hfree : ∀ slot ∈ q.free, slot ∈ p.free ∨
      Excused q (past ++ p.deeds e) (known ++ added) slot .idle)
    (hheld : ∀ d ∈ q.handles, ∀ slot state, d.2 = .held slot state → d ∈ p.handles ∨
      Excused q (past ++ p.deeds e) (known ++ added) slot state)
    (hlost : ∀ h j e', .lost h j e' ∈ p.deeds e →
      ∃ w, .given w j ∈ known ++ added ∧ (.died w j ∈ known ∨ Outlived past known w j)) :
    Explained q (past ++ p.deeds e) (known ++ added) := by
  have hpast := List.subset_append_left past (p.deeds e)
  have hknown := List.subset_append_left known added
  have hmono : ∀ {slot : Slot} {state : SlotState}, Excused p past known slot state →
      Excused q (past ++ p.deeds e) (known ++ added) slot state := fun excused =>
    excused.mono (fun hw => works_step? hs hw (he _)) (size_step? hs) hpast hknown
  refine ⟨fun w j hd => ?_, fun slot hslot => ?_, fun d hd slot state hd' => ?_,
    fun h j e' hmem => ?_⟩
  · have hold := (List.mem_append.mp hd).resolve_right (hadded w j)
    obtain ⟨job, hjob, hclosed⟩ := x.closed w j hold
    exact a.closed_step? hs hjob hclosed
  · exact (hfree slot hslot).elim (fun hold => hmono (x.free slot hold)) id
  · exact (hheld d hd slot state hd').elim (fun hold => hmono (x.held d hold slot state hd')) id
  · have hcause : ∃ w, .given w j ∈ known ++ added ∧
        (.died w j ∈ known ∨ Outlived past known w j) := by
      rcases List.mem_append.mp hmem with hold | hnew
      · obtain ⟨w, hgiven, hwhy⟩ := x.lost h j e' hold
        exact ⟨w, hknown hgiven, hwhy⟩
      · exact hlost h j e' hnew
    obtain ⟨w, hgiven, hwhy⟩ := hcause
    exact ⟨w, hgiven, hwhy.imp (fun hd => hknown hd) fun o => o.mono hpast hknown (Nat.le_refl _)⟩

theorem send (x : Explained p past known) (a : Attended p) {h : Nat} {request : EvalRequest}
    (hs : p.step? (.send h request) = some q) :
    Explained q (past ++ p.deeds (.send h request)) (known ++ p.fatesIn (.send h request)) := by
  obtain ⟨slot, k, hh, hk, hq⟩ := send_cases hs
  have hidle : ¬ p.works slot.worker → Outlived past known slot.worker p.jobs.size :=
    x.held _ (mem_of_holding hh) slot _ rfl
  have hdeeds : p.deeds (.send h request) = _ := sendDeeds_eq hh hk
  have hadded : ∀ w j, Fate.died w j ∉ p.fatesIn (.send h request) := fun w j hd => by
    rw [fatesIn_send hh] at hd
    cases List.mem_singleton.mp hd
  have hgiven : .given slot.worker p.jobs.size ∈ known ++ p.fatesIn (.send h request) := by
    rw [fatesIn_send hh]
    exact List.mem_append_right _ List.mem_cons_self
  rcases hq with ⟨hgone, rfl⟩ | ⟨hlive, rfl⟩
  · refine x.carry a hs _ (fun _ heq => by cases heq) hadded (fun _ hslot => Or.inl hslot)
      (fun d hd slot' state hheld => ?_) fun g j e' hmem => ?_
    · rcases mem_hold hd with rfl | ⟨hmem, -⟩
      · cases hheld
        exact Or.inr trivial
      · exact Or.inl hmem
    · rw [hdeeds, if_pos hgone] at hmem
      have hdead : ¬ p.works slot.worker := by
        rw [works_iff hk, hgone]
        exact fun h => by cases h
      rcases List.mem_cons.mp hmem with heq | hmem
      · cases heq
      · cases List.mem_singleton.mp hmem
        exact ⟨_, hgiven, Or.inr (hidle hdead)⟩
  · refine x.carry a hs _ (fun _ heq => by cases heq) hadded (fun _ hslot => Or.inl hslot)
      (fun d hd slot' state hheld => ?_) fun g j e' hmem => ?_
    · rcases mem_hold hd with rfl | ⟨hmem, -⟩
      · cases hheld
        refine Or.inr ⟨hgiven, fun hdead => Or.inr ?_⟩
        exact (hidle fun hw => hdead (works_step? hs hw fun heq => by cases heq)).mono
          (List.subset_append_left _ _) (List.subset_append_left _ _) (Nat.le_refl _)
      · exact Or.inl hmem
    · rw [hdeeds, if_neg hlive] at hmem
      cases List.mem_singleton.mp hmem

/-- A step that gives no job to a worker and costs none its life. -/
theorem carryOn (x : Explained p past known) (a : Attended p) (hs : p.step? e = some q)
    (he : ∀ w, e ≠ .die w)
    (hfree : ∀ slot ∈ q.free, slot ∈ p.free ∨ Excused q (past ++ p.deeds e) known slot .idle)
    (hheld : ∀ d ∈ q.handles, ∀ slot state, d.2 = .held slot state → d ∈ p.handles ∨
      Excused q (past ++ p.deeds e) known slot state)
    (hlost : ∀ h j e', .lost h j e' ∈ p.deeds e →
      ∃ w, .given w j ∈ known ∧ (.died w j ∈ known ∨ Outlived past known w j)) :
    Explained q (past ++ p.deeds e) known := by
  have hsame := List.append_nil known
  have hcarried := x.carry a hs [] he (fun _ _ => List.not_mem_nil)
  rw [hsame] at hcarried
  exact hcarried hfree hheld hlost

theorem receive (x : Explained p past known) (a : Attended p) {h : Nat}
    (hs : p.step? (.receive h) = some q) :
    Explained q (past ++ p.deeds (.receive h)) known := by
  obtain ⟨slot, j, job, hh, hjob, hq⟩ := receive_cases hs
  obtain ⟨hgiven, hrunning⟩ : Fate.given slot.worker j ∈ known ∧ (¬ p.works slot.worker →
      Fate.died slot.worker j ∈ known ∨ Outlived past known slot.worker j) :=
    x.held _ (mem_of_holding hh) slot _ rfl
  have hlt : j < p.jobs.size := (Array.getElem?_eq_some_iff.mp hjob).1
  have hdeeds : p.deeds (.receive h) = job.reply.deeds h slot.id j := receiveDeeds_eq hh hjob
  have hanswered : ∀ outcome, job.reply = .answered outcome → q.free = p.free →
      q.handles = (p.hold h (.held slot .idle)).handles →
      Explained q (past ++ p.deeds (.receive h)) known := by
    intro outcome hreply hfree hhandles
    refine x.carryOn a hs (fun _ heq => by cases heq) (fun _ hslot => Or.inl (hfree ▸ hslot))
      (fun d hd slot' state hheld => ?_) fun g k e' hmem => ?_
    · rw [hhandles] at hd
      rcases mem_hold hd with rfl | ⟨hmem, -⟩
      · cases hheld
        refine Or.inr fun hdead => ?_
        rcases hrunning fun hw => hdead (works_step? hs hw fun heq => by cases heq) with
          hdied | outlived
        · -- a job that has an answer is not one in which a worker died
          obtain ⟨job', hjob', hclosed⟩ := x.closed _ _ hdied
          obtain rfl : job = job' := Option.some.inj (hjob.symm.trans hjob')
          rw [hreply] at hclosed
          cases hclosed
        · exact outlived.mono (List.subset_append_left _ _) (List.Subset.refl _)
            (Nat.le_trans (Nat.le_of_lt hlt) (size_step? hs))
      · exact Or.inl hmem
    · rw [hdeeds, hreply] at hmem
      cases List.mem_singleton.mp hmem
  rcases hq with ⟨o, hreply, rfl⟩ | ⟨t, hreply, rfl⟩ | ⟨hreply, rfl⟩
  · exact hanswered _ hreply rfl rfl
  · exact hanswered _ hreply rfl rfl
  · refine x.carryOn a hs (fun _ heq => by cases heq) (fun _ hslot => Or.inl hslot)
      (fun d hd slot' state hheld => ?_) fun g k e' hmem => ?_
    · rcases mem_hold hd with rfl | ⟨hmem, -⟩
      · cases hheld
        exact Or.inr trivial
      · exact Or.inl hmem
    · rw [hdeeds, hreply] at hmem
      cases List.mem_singleton.mp hmem
      obtain ⟨job', hjob', -, hclosed⟩ := a.awaited _ (mem_of_holding hh) slot j rfl
      obtain rfl : job = job' := Option.some.inj (hjob.symm.trans hjob')
      exact ⟨_, hgiven, hrunning (hclosed hreply)⟩

/-- A slot that goes back is explained by what its handle knew, and by its being given up. -/
theorem dropHandle (x : Explained p past known) (a : Attended p) {h : Nat}
    (hs : p.step? (.dropHandle h) = some q) :
    Explained q (past ++ p.deeds (.dropHandle h)) known := by
  obtain ⟨slot, state, hh, hq⟩ := dropHandle_cases hs
  have hheld : Excused p past known slot state := x.held _ (mem_of_holding hh) slot state rfl
  have hback : ∀ {fresh : Slot}, q.free = fresh :: p.free →
      q.handles = (p.hold h .dropped).handles →
      Excused q (past ++ p.deeds (.dropHandle h)) known fresh .idle →
      Explained q (past ++ p.deeds (.dropHandle h)) known := by
    intro fresh hfree hhandles hfresh
    refine x.carryOn a hs (fun _ heq => by cases heq) (fun s hslot => ?_)
      (fun d hd slot' state' hd' => ?_) fun g j e' hmem => ?_
    · rw [hfree] at hslot
      rcases List.mem_cons.mp hslot with rfl | hold
      · exact Or.inr hfresh
      · exact Or.inl hold
    · rw [hhandles] at hd
      rcases mem_hold hd with rfl | ⟨hmem, -⟩
      · cases hd'
      · exact Or.inl hmem
    · rcases lost_mem_deeds hmem with ⟨_, heq⟩ | heq
      · cases heq
      · cases heq
  have hworks : p.works slot.worker → q.works slot.worker :=
    fun hw => works_step? hs hw fun heq => by cases heq
  rcases hq with ⟨rfl, rfl⟩ | ⟨j, rfl, rfl⟩ | ⟨rfl, rfl⟩
  · exact hback rfl rfl (hheld.mono hworks (size_step? hs) (List.subset_append_left _ _)
      (List.Subset.refl _))
  · refine hback rfl rfl fun hdead => ?_
    obtain ⟨job, hjob, -⟩ := a.awaited _ (mem_of_holding hh) slot j rfl
    have hlt := Nat.lt_of_lt_of_le (Array.getElem?_eq_some_iff.mp hjob).1 (size_step? hs)
    rcases hheld.2 fun hw => hdead (hworks hw) with hdied | outlived
    · refine ⟨h, j, hlt, hdied, List.mem_append_right _ ?_⟩
      rw [show p.deeds (.dropHandle h) = _ from dropDeeds_eq hh]
      exact List.mem_singleton.mpr rfl
    · exact outlived.mono (List.subset_append_left _ _) (List.Subset.refl _) (Nat.le_of_lt hlt)
  · refine hback rfl rfl fun hdead => absurd ?_ hdead
    exact ⟨Worker.new p.fresh, Array.getElem?_push_size, rfl⟩

/-- A worker dies in a job that its caller gave up on, or that the handle of its slot waits
for. -/
theorem die (x : Explained p past known) (a : Attended p) (c : Followed n i p past) {w : Nat}
    (hs : p.step? (.die w) = some q) :
    Explained q (past ++ p.deeds (.die w)) (known ++ p.fatesIn (.die w)) := by
  obtain ⟨own, queue, j, hk, hq⟩ := die_cases hs
  have hat : p.has w j := ⟨_, hk, List.mem_cons_self⟩
  have hlt : j < q.jobs.size := Nat.lt_of_lt_of_le (a.lt_of_has hat) (size_step? hs)
  have hdied : .died w j ∈ known ++ [.died w j] := List.mem_append_right _ List.mem_cons_self
  have hknown := List.subset_append_left known [.died w j]
  have hother : ∀ {slot : Slot} {state : SlotState}, Excused p past known slot state →
      slot.worker ≠ w → Excused q past (known ++ [.died w j]) slot state := fun excused hne =>
    excused.mono (fun hw => works_step? hs hw fun heq => hne (Event.die.inj heq).symm)
      (size_step? hs) (List.Subset.refl _) hknown
  have habandoned : ∀ job, p.jobs[j]? = some job → job.cancelled = true →
      ∀ k, j < k → Outlived past (known ++ [.died w j]) w k := by
    intro job hjob hcancelled k hjk
    obtain ⟨h, hmem⟩ := (c.recorded.flags j job hjob).mp hcancelled
    exact ⟨h, j, hjk, hdied, hmem⟩
  rw [fatesIn_die hk rfl, show p.deeds (.die w) = [] from rfl, List.append_nil]
  refine ⟨fun v l hd => ?_, fun slot hslot => ?_, fun d hd slot state hheld => ?_,
    fun h l e' hmem => ?_⟩
  · rcases List.mem_append.mp hd with hold | hnew
    · obtain ⟨job, hjob, hclosed⟩ := x.closed v l hold
      exact a.closed_step? hs hjob hclosed
    · cases List.mem_singleton.mp hnew
      obtain ⟨job, hjob, -⟩ := a.kept w j hat
      refine ⟨{ job with reply := .closed }, ?_, rfl⟩
      rw [hq]
      show (p.jobs.modify j _)[j]? = _
      rw [Array.getElem?_modify, if_pos rfl, hjob]
      rfl
  · have hfree : slot ∈ p.free := by rw [hq] at hslot; exact hslot
    by_cases hw : slot.worker = w
    · obtain ⟨job, hjob, -, hcancelled | ⟨d, hd, slot', hd', hslot'⟩⟩ := a.kept w j hat
      · intro _
        rw [hw]
        exact habandoned job hjob hcancelled _ hlt
      · -- the handle that waits for the job has the slot, so it is not free
        have huses := a.ne_of_free hd hfree
        rw [hd', hw, uses_held, hslot', beq_self_eq_true] at huses
        cases huses
    · exact hother (x.free slot hfree) hw
  · have hmem : d ∈ p.handles := by rw [hq] at hd; exact hd
    have hold := x.held d hmem slot state hheld
    by_cases hw : slot.worker = w
    · subst hw
      rcases a.cancelled_or_own hmem hheld hat with ⟨job, hjob, hcancelled⟩ | rfl
      · cases state with
        | idle => exact fun _ => habandoned job hjob hcancelled _ hlt
        | running k =>
            refine ⟨hknown hold.1, fun _ => Or.inr (habandoned job hjob hcancelled k ?_)⟩
            refine Nat.lt_of_le_of_ne (a.last d hmem slot k hheld j hat) ?_
            rintro rfl
            obtain ⟨awaited, hawaited, hlive⟩ := c.isolated.awaited d hmem j (by rw [hheld]; rfl)
            rw [hjob] at hawaited
            cases hawaited
            rw [hlive] at hcancelled
            cases hcancelled
        | dead => trivial
      · exact ⟨hknown hold.1, fun _ => Or.inl hdied⟩
    · exact hother hold hw
  · obtain ⟨v, hgiven, hwhy⟩ := x.lost h l e' hmem
    exact ⟨v, hknown hgiven, hwhy.imp (fun hd => hknown hd)
      fun o => o.mono (List.Subset.refl _) hknown (Nat.le_refl _)⟩

/-- A step that moves no slot, gives no job to a worker and tells no caller of a loss. -/
theorem quiet (x : Explained p past known) (a : Attended p) (hs : p.step? e = some q)
    (he : (∀ w, e ≠ .die w) ∧ (∀ h request, e ≠ .send h request) ∧ ∀ h, e ≠ .receive h)
    (hfree : q.free = p.free)
    (hheld : ∀ d ∈ q.handles, ∀ slot state, d.2 = .held slot state → d ∈ p.handles) :
    Explained q (past ++ p.deeds e) (known ++ p.fatesIn e) := by
  have hnone : p.fatesIn e = [] := by
    cases e with
    | die w => exact absurd rfl (he.1 w)
    | send h request => exact absurd rfl (he.2.1 h request)
    | _ => rfl
  rw [hnone, List.append_nil]
  refine x.carryOn a hs he.1 (fun _ hslot => Or.inl (hfree ▸ hslot))
    (fun d hd slot state hd' => Or.inl (hheld d hd slot state hd')) fun h j e' hmem => ?_
  rcases lost_mem_deeds hmem with ⟨request, heq⟩ | heq
  · exact absurd heq (he.2.1 h request)
  · exact absurd heq (he.2.2 h)

theorem popSlot (x : Explained p past known) (a : Attended p) {h : Nat}
    (hs : p.step? (.popSlot h) = some q) : Explained q (past ++ p.deeds (.popSlot h)) known := by
  obtain ⟨-, ⟨slot, rest, hfree, rfl⟩ | ⟨-, rfl⟩⟩ := popSlot_cases hs
  · refine x.carryOn a hs (fun _ heq => by cases heq) (fun s hslot => Or.inl ?_)
      (fun d hd slot' state hheld => ?_) fun _ _ _ hmem => by cases hmem
    · rw [hfree]
      exact List.mem_cons_of_mem _ hslot
    · rcases mem_hold hd with rfl | ⟨hmem, -⟩
      · cases hheld
        have hslot := x.free slot (by rw [hfree]; exact List.mem_cons_self)
        exact Or.inr (hslot.mono id (Nat.le_refl _) (List.subset_append_left _ _)
          (List.Subset.refl _))
      · exact Or.inl hmem
  · refine x.carryOn a hs (fun _ heq => by cases heq) (fun _ hslot => Or.inl hslot)
      (fun d hd slot' state hheld => ?_) fun _ _ _ hmem => by cases hmem
    rcases mem_hold hd with rfl | ⟨hmem, -⟩
    · cases hheld
    · exact Or.inl hmem

theorem step? (x : Explained p past known) (a : Attended p) (c : Followed n i p past)
    (hs : p.step? e = some q) : Explained q (past ++ p.deeds e) (known ++ p.fatesIn e) := by
  cases e with
  | die w => exact x.die a c hs
  | send h request => exact x.send a hs
  | receive h =>
      rw [show p.fatesIn (.receive h) = [] from rfl, List.append_nil]
      exact x.receive a hs
  | dropHandle h =>
      rw [show p.fatesIn (.dropHandle h) = [] from rfl, List.append_nil]
      exact x.dropHandle a hs
  | popSlot h =>
      rw [show p.fatesIn (.popSlot h) = [] from rfl, List.append_nil]
      exact x.popSlot a hs
  | takePermit =>
      obtain ⟨-, rfl⟩ := takePermit_cases hs
      refine x.quiet a hs (by simp) rfl fun d hd slot state hheld => ?_
      rcases List.mem_cons.mp hd with rfl | hmem
      · cases hheld
      · exact hmem
  | returnPermit h =>
      obtain ⟨-, rfl⟩ := returnPermit_cases hs
      exact x.quiet a hs (by simp) rfl fun d hd _ _ _ => List.mem_of_mem_filter hd
  | _ =>
      have hl := step?_sameLedger rfl hs
      exact x.quiet a hs (by simp) hl.free fun d hd _ _ _ => hl.handles ▸ hd

/-- What a run makes of a state that is explained. -/
theorem steps? : ∀ (es : List Event) {p : Pool} {past : List Deed} {known : List Fate},
    Explained p past known → Attended p → Followed n i p past → p.steps? es = some q →
      Explained q (past ++ p.history es) (known ++ p.fates es) := by
  intro es
  induction es with
  | nil =>
      intro p past known x _ _ hs
      cases hs
      rw [history, fates, List.append_nil, List.append_nil]
      exact x
  | cons e rest ih =>
      intro p past known x a c hs
      rw [steps?_cons] at hs
      obtain ⟨mid, hmid, hrest⟩ := Option.bind_eq_some_iff.mp hs
      have hfates : p.fates (e :: rest) = p.fatesIn e ++ mid.fates rest := by rw [fates, hmid]
      rw [history_cons hmid, hfates, ← List.append_assoc, ← List.append_assoc]
      exact ih (x.step? a c hmid) (a.step? c hmid) (c.step? hmid) hrest

end Explained

theorem explained_new (size : Nat) (i : Interpreter) : Explained (new size i) [] [] where
  closed := fun w j hd => by cases hd
  free := fun slot hslot hdead => by
    obtain ⟨w, hw, rfl⟩ := List.mem_map.mp (List.mem_reverse.mp hslot)
    refine absurd ⟨Worker.new i, ?_, rfl⟩ hdead
    show (Array.replicate size (Worker.new i))[w]? = _
    rw [Array.getElem?_replicate, if_pos (List.mem_range.mp hw)]
  held := fun e he => by cases he
  lost := fun h j e hmem => by cases hmem

/-- **Every loss has a cause** that lies with the worker that had the job. -/
theorem explained_of_steps? {size : Nat} {es : List Event}
    (hs : (new size i).steps? es = some p) :
    Explained p ((new size i).history es) ((new size i).fates es) :=
  Explained.steps? es (explained_new size i) (attended_new size i)
    ⟨conserved_new size i, isolated_new size i, tallied_new size i, recorded_new size i⟩ hs

end Lookout.Pool
