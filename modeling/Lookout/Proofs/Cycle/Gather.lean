/-
No action of a dispatch sees another one.

An action that is under way with others begins, and is answered if it has sent a request.  Nothing
else concerns it, and what it comes to is what it comes to by itself.  `Came` says this of one
action and the steps that concern it, and `Reached` of all actions together; what is sent and
written is, up to order, what the actions that have begun send and write.  Every step keeps
`Reached`, whichever action it is about, and so does every run.
-/
import Lookout.Cycle.Gather
import Lookout.Proofs.Cycle.Actions

namespace Lookout

open Lookout.Cycle (begunParts)

/-! ### One action -/

namespace Dispatcher

/-- What an action comes to by itself, told by how it opens. -/
def closed (d : Dispatcher) (net : Network) (a : Action) : Opening → ActionRun
  | .finished result logs => ⟨result, [], logs, ⟨0⟩⟩
  | .asks request =>
    let exchange := net.send d.timeout request
    ⟨closing a exchange.result, [request], [], exchange.took⟩

theorem send_eq_closed {d : Dispatcher} {net : Network} {a : Action}
    {judge : HttpResponse → Except ActionError Unit} (request : Except SendError HttpRequest)
    (h : ∀ response, closing a (.ok response) = judge response) :
    d.send net request judge = d.closed net a (.ofRequest request) := by
  cases request with
  | error e => rfl
  | ok request =>
      unfold send
      simp only [Opening.ofRequest, closed]
      cases (net.send d.timeout request).result with
      | error e => cases a <;> rfl
      | ok response => rw [h response]

/-- An action carried out is the action up to its wait, the wait, and the action behind it. -/
theorem dispatch_eq_closed (d : Dispatcher) (net : Network) (c : AlertContext) (a : Action) :
    d.dispatch net c a = d.closed net a (d.opening c a) := by
  cases a with
  | log message => rfl
  | http request =>
      simp only [dispatch, sendHttp, opening]
      by_cases bad : (!isToken request.method) = true
      · rw [if_pos bad, if_pos bad]
        rfl
      · rw [if_neg bad, if_neg bad]
        exact send_eq_closed _ fun _ => rfl
  | slack text =>
      simp only [dispatch, sendChat, opening]
      cases d.webhook with
      | none => rfl
      | some endpoint =>
          dsimp only
          by_cases empty : text.isEmpty = true
          · rw [if_pos empty, if_pos empty]
            rfl
          · rw [if_neg empty, if_neg empty]
            exact send_eq_closed _ fun _ => rfl

end Dispatcher

namespace Gathering

variable {g : Gathering} {s s' : State} {e : Event} {es : List Event}

/-- What an action comes to by itself. -/
def alone (g : Gathering) (a : Action) : ActionRun :=
  g.dispatcher.dispatch g.net g.context a

/-- How an action opens says what it comes to by itself. -/
theorem alone_of_opening {a : Action} {o : Opening}
    (opens : g.dispatcher.opening g.context a = o) :
    g.alone a = g.dispatcher.closed g.net a o := by
  unfold alone
  rw [Dispatcher.dispatch_eq_closed, opens]

/-- How an action comes to a stage: how often it has begun by then, and how often an answer came
for it. -/
inductive Came (g : Gathering) (a : Action) : Stage → Nat → Nat → Prop where
  | due : Came g a .due 0 0
  | finished {result : Except ActionError Unit} {logs : List LogRecord}
      (h : g.dispatcher.opening g.context a = .finished result logs) : Came g a (.done result) 1 0
  | waiting {request : HttpRequest}
      (h : g.dispatcher.opening g.context a = .asks request) : Came g a (.waiting request) 1 0
  | answered {request : HttpRequest}
      (h : g.dispatcher.opening g.context a = .asks request) :
      Came g a
        (.done (Dispatcher.closing a (g.net.send g.dispatcher.timeout request).result)) 1 1

/-- An action that is over has come to what it comes to by itself, has begun once, and has been
answered as often as it sends requests. -/
theorem Came.done {a : Action} {result : Except ActionError Unit} {begun answered : Nat}
    (h : Came g a (.done result) begun answered) :
    result = (g.alone a).result ∧ begun = 1 ∧ answered = (g.alone a).requests.length := by
  cases h with
  | finished opens =>
      rw [alone_of_opening opens]
      exact ⟨rfl, rfl, rfl⟩
  | answered opens =>
      rw [alone_of_opening opens]
      exact ⟨rfl, rfl, rfl⟩

/-! ### One step -/

/-- What a step can do. -/
inductive Moves (g : Gathering) (s : State) : Event → State → Prop where
  | finished {i : Nat} {a : Action} {result : Except ActionError Unit} {logs : List LogRecord}
      (action : g.actions[i]? = some a) (stage : s.stages[i]? = some .due)
      (opens : g.dispatcher.opening g.context a = .finished result logs) :
      Moves g s (.begins i) ⟨s.stages.set i (.done result), s.sent, s.logs ++ logs⟩
  | asks {i : Nat} {a : Action} {request : HttpRequest}
      (action : g.actions[i]? = some a) (stage : s.stages[i]? = some .due)
      (opens : g.dispatcher.opening g.context a = .asks request) :
      Moves g s (.begins i) ⟨s.stages.set i (.waiting request), s.sent ++ [request], s.logs⟩
  | answered {i : Nat} {a : Action} {request : HttpRequest}
      (action : g.actions[i]? = some a) (stage : s.stages[i]? = some (.waiting request)) :
      Moves g s (.answered i)
        ⟨s.stages.set i
          (.done (Dispatcher.closing a (g.net.send g.dispatcher.timeout request).result)),
          s.sent, s.logs⟩

theorem moves_of_step? (h : g.step? s e = some s') : Moves g s e s' := by
  unfold step? at h
  split at h
  · case h_1 i =>
    split at h
    · case h_1 a action stage =>
      cases h
      unfold opened
      cases opens : g.dispatcher.opening g.context a with
      | finished result logs => exact .finished action stage opens
      | asks request => exact .asks action stage opens
    · cases h
  · case h_2 i =>
    split at h
    · case h_1 a request action stage =>
      cases h
      exact .answered action stage
    · cases h

theorem steps?_cons (e : Event) (es : List Event) (s : State) :
    g.steps? s (e :: es) = (g.step? s e).bind fun s' => g.steps? s' es := by
  cases h : g.step? s e with
  | none => simp [steps?, h]
  | some s' => simp [steps?, h]

/-! ### What is sent and written -/

theorem getElem?_coarse {stages : List Stage} {i : Nat} {stage : Stage}
    (h : stages[i]? = some stage) : (stages.map Stage.coarse)[i]? = some stage.coarse := by
  rw [List.getElem?_map, h]
  rfl

section Parts

variable {β : Type} {run : Action → ActionRun} {part : ActionRun → List β}

/-- An action that begins adds its own part, whether it is over at once or waits. -/
theorem begunParts_set {actions : List Action} {stages : List Stage} {i : Nat} {a : Action}
    {new : Stage} (action : actions[i]? = some a) (stage : stages[i]? = some .due)
    (begun : new.coarse ≠ .due) :
    (begunParts run part actions ((stages.set i new).map Stage.coarse)).Perm
      (begunParts run part actions (stages.map Stage.coarse) ++ part (run a)) := by
  have due := getElem?_coarse stage
  have first := Cycle.begunParts_begin run part actions (stages.map Stage.coarse) i a action due
  rw [List.map_set]
  cases new with
  | due => exact absurd rfl begun
  | waiting request => exact first
  | done result =>
      have inBounds : i < (stages.map Stage.coarse).length := by
        obtain ⟨bound, -⟩ := List.getElem?_eq_some_iff.mp due
        exact bound
      have under : ((stages.map Stage.coarse).set i .begun)[i]? = some .begun :=
        List.getElem?_set_self inBounds
      have ended := Cycle.begunParts_end run part actions _ i result under
      rw [List.set_set] at ended
      exact (List.Perm.of_eq ended).trans first

/-- An action that was waiting has sent and written all it does. -/
theorem begunParts_answered {actions : List Action} {stages : List Stage} {i : Nat}
    {request : HttpRequest} {result : Except ActionError Unit}
    (stage : stages[i]? = some (.waiting request)) :
    begunParts run part actions ((stages.set i (.done result)).map Stage.coarse) =
      begunParts run part actions (stages.map Stage.coarse) := by
  rw [List.map_set]
  exact Cycle.begunParts_end _ _ _ _ _ _ (getElem?_coarse stage)

end Parts

/-! ### All actions -/

/-- What holds after a sequence of steps. -/
structure Reached (g : Gathering) (es : List Event) (s : State) : Prop where
  length : s.stages.length = g.actions.length
  came : ∀ i a stage, g.actions[i]? = some a → s.stages[i]? = some stage →
    Came g a stage (es.count (.begins i)) (es.count (.answered i))
  /-- No step concerns an action that is not there. -/
  outside : ∀ i, g.actions[i]? = none → es.count (.begins i) = 0 ∧ es.count (.answered i) = 0
  sent : s.sent.Perm (begunParts g.alone (·.requests) g.actions (s.stages.map Stage.coarse))
  logs : s.logs.Perm (begunParts g.alone (·.logs) g.actions (s.stages.map Stage.coarse))

namespace Reached

theorem start (g : Gathering) : Reached g [] g.start where
  length := List.length_map ..
  came := by
    intro i a stage _ hstage
    have due : stage = .due := by
      unfold Gathering.start at hstage
      rw [List.getElem?_map] at hstage
      obtain ⟨_, -, rfl⟩ := Option.map_eq_some_iff.mp hstage
      rfl
    rw [due]
    exact .due
  outside := fun i _ => ⟨rfl, rfl⟩
  sent := by
    unfold Gathering.start
    rw [List.map_map]
    exact List.Perm.of_eq (Cycle.begunParts_due _ _ _).symm
  logs := by
    unfold Gathering.start
    rw [List.map_map]
    exact List.Perm.of_eq (Cycle.begunParts_due _ _ _).symm

/-- A step leaves alone how often other things happened. -/
theorem count_other {x : Event} (h : e ≠ x) : (es ++ [e]).count x = es.count x := by
  rw [List.count_append, List.count_singleton]
  simp [h]

theorem count_same : (es ++ [e]).count e = es.count e + 1 := by
  rw [List.count_append, List.count_singleton]
  simp

/-- A step that concerns one action keeps what holds, if that action came to its new stage. -/
theorem set (h : Reached g es s) {i : Nat} {a : Action} {new : Stage} {sent : List HttpRequest}
    {logs : List LogRecord} (action : g.actions[i]? = some a)
    (about : e = .begins i ∨ e = .answered i)
    (came : Came g a new ((es ++ [e]).count (.begins i)) ((es ++ [e]).count (.answered i)))
    (hsent : sent.Perm
      (begunParts g.alone (·.requests) g.actions ((s.stages.set i new).map Stage.coarse)))
    (hlogs : logs.Perm
      (begunParts g.alone (·.logs) g.actions ((s.stages.set i new).map Stage.coarse))) :
    Reached g (es ++ [e]) ⟨s.stages.set i new, sent, logs⟩ := by
  have counts : ∀ k, k ≠ i → (es ++ [e]).count (.begins k) = es.count (.begins k) ∧
      (es ++ [e]).count (.answered k) = es.count (.answered k) := by
    intro k hk
    constructor
    · apply count_other
      rcases about with rfl | rfl
      · exact fun same => hk (Event.begins.inj same).symm
      · exact fun same => by cases same
    · apply count_other
      rcases about with rfl | rfl
      · exact fun same => by cases same
      · exact fun same => hk (Event.answered.inj same).symm
  refine ⟨?_, ?_, ?_, hsent, hlogs⟩
  · rw [List.length_set]
    exact h.length
  · intro k b stage hb hstage
    by_cases hk : k = i
    · subst hk
      cases action.symm.trans hb
      have inBounds : k < s.stages.length := by
        rw [h.length]
        exact (List.getElem?_eq_some_iff.mp action).1
      rw [List.getElem?_set_self inBounds] at hstage
      cases hstage
      exact came
    · rw [List.getElem?_set_ne (Ne.symm hk)] at hstage
      rw [(counts k hk).1, (counts k hk).2]
      exact h.came k b stage hb hstage
  · intro k absent
    have hk : k ≠ i := by
      rintro rfl
      rw [action] at absent
      cases absent
    rw [(counts k hk).1, (counts k hk).2]
    exact h.outside k absent

/-- An action that begins comes to a stage that is not due any more, and its part goes out. -/
theorem begins (h : Reached g es s) {i : Nat} {a : Action} {new : Stage}
    (action : g.actions[i]? = some a) (stage : s.stages[i]? = some .due)
    (begun : new.coarse ≠ .due) (came : Came g a new 1 0) :
    Reached g (es ++ [.begins i])
      ⟨s.stages.set i new, s.sent ++ (g.alone a).requests, s.logs ++ (g.alone a).logs⟩ := by
  have before := h.came i a .due action stage
  generalize hbegun : es.count (.begins i) = timesBegun at before
  generalize hanswered : es.count (.answered i) = timesAnswered at before
  cases before
  apply h.set action (Or.inl rfl)
  · rw [count_same, count_other (by simp), hbegun, hanswered]
    exact came
  · exact (h.sent.append_right _).trans (begunParts_set action stage begun).symm
  · exact (h.logs.append_right _).trans (begunParts_set action stage begun).symm

/-- What holds before a step holds behind it. -/
theorem step (h : Reached g es s) (moves : Moves g s e s') : Reached g (es ++ [e]) s' := by
  cases moves with
  | @finished i a result logs action stage opens =>
      have next := h.begins action stage (by simp [Stage.coarse]) (.finished opens)
      rw [alone_of_opening opens] at next
      simpa [Dispatcher.closed] using next
  | @asks i a request action stage opens =>
      have next := h.begins action stage (by simp [Stage.coarse]) (.waiting opens)
      rw [alone_of_opening opens] at next
      simpa [Dispatcher.closed] using next
  | @answered i a request action stage =>
      have before := h.came i a _ action stage
      generalize hbegun : es.count (.begins i) = timesBegun at before
      generalize hanswered : es.count (.answered i) = timesAnswered at before
      cases before with
      | waiting opens =>
          apply h.set action (Or.inr rfl)
          · rw [count_same, count_other (by simp), hbegun, hanswered]
            exact .answered opens
          · rw [begunParts_answered stage]
            exact h.sent
          · rw [begunParts_answered stage]
            exact h.logs

/-- What holds before a run holds behind it. -/
theorem steps : ∀ {fs : List Event} {es : List Event} {s : State}, Reached g es s →
    g.steps? s fs = some s' → Reached g (es ++ fs) s' := by
  intro fs
  induction fs with
  | nil =>
      intro es s h run
      cases run
      rw [List.append_nil]
      exact h
  | cons e fs ih =>
      intro es s h run
      rw [steps?_cons] at run
      obtain ⟨next, taken, rest⟩ := Option.bind_eq_some_iff.mp run
      have after := ih (h.step (moves_of_step? taken)) rest
      rw [List.append_assoc] at after
      exact after

end Reached

end Gathering

end Lookout
