/-
The context of a condition comes back as it went in, but for its result.

Whatever a helper script defines, each condition starts with the name, the start and the result of
its own context; and of what it does with these only one thing comes back, which is what `result`
holds when it ends.  This is so for every answer that a caller of the pool is told, whoever else
uses the pool meanwhile, and for the context that the actions of a cycle get.
-/
import Lookout.Proofs.Cycle.Safety
import Lookout.Proofs.Except
import Lookout.Proofs.Pool.Replies
import Lookout.Proofs.Script.Globals

namespace Lookout

open Script (Interpreter Eval topScope)

/-- **The context of an evaluation is framed.**  In every pool that could be started, a condition
starts with its own context in front of the helpers; who is told an outcome has a context that
differs from the one sent in its result alone, and that is what `result` was left as; and this is
the context that a cycle acts on. -/
theorem context_framed {size : Nat} {helpers : Option String} {p : Pool}
    (hp : Pool.create size helpers = .ok p) :
    let i := p.fresh
    (∀ c statements cancelAt, ∃ frame m, i.Opens c frame m ∧
      (i.condition c statements).run ⟨i.cells, i.cells.size, cancelAt, 0⟩
        = (Eval.script (topScope c frame) statements >>= fun last => pure (frame, last)).run m) ∧
    ∀ es q, p.steps? es = some q →
      (∀ h j o, .told h j (.ok o) ∈ p.history es → ∃ request, .sent h j request ∈ p.history es ∧
        i.Leaves request.script request.context (request.context.withResult o.result)) ∧
      ∀ (t : CycleTask) (steps : List Cycle.Event) (s : Cycle.State) c' stages,
        t.steps? (Cycle.start q) steps = some s → s.stage = .acting c' stages →
        ∃ v, s.answer = some (.ok v) ∧ i.Leaves t.alert.condition (t.context v) c' := by
  obtain ⟨i, -, rfl⟩ := Pool.eq_new_of_create hp
  refine ⟨fun c statements cancelAt => i.exists_opens c statements cancelAt, ?_⟩
  intro es q hs
  constructor
  · intro h j o told
    obtain ⟨request, sent, -, same⟩ := (Pool.followed_of_steps? hs).recorded.told h j (.ok o) told
    exact ⟨request, sent, Interpreter.leaves_of_run same.symm⟩
  · intro t steps s c' stages cycle acting
    have sound := Cycle.sound_of_steps? ⟨size, es, hs⟩ cycle
    have facts := sound.stage
    rw [acting] at facts
    obtain ⟨v, o, answer, told, -, rfl, -⟩ := facts
    obtain ⟨v', answer', ran⟩ := sound.run_of_told told
    cases answer.symm.trans answer'
    exact ⟨v, answer, Interpreter.leaves_of_run ran⟩

/-- Helpers with the names of the context. -/
def ownNames : String :=
  "name = 'init'\nstarted_ts = 1\nresult = None"

/-- A cycle whose condition changes its result through another name for it, and then binds all names
of its context anew. -/
def rebinder : CycleTask where
  alert :=
    { name := "disk"
      intervalSecs := 60
      search := ⟨"logs", .null⟩
      condition := "was = result\nwas.append(name)\nwas.append(started_ts)\nname = 'other'\n"
        ++ "started_ts = 0\nresult = [was]\nTrue"
      actions := [.log "up"] }
  now := 18446744073709551615
  dispatcher := .new none ⟨10⟩
  net := .unreachable
  timeout := ⟨20⟩

/-- The steps of a cycle up to the answer to its condition. -/
def judged : List Cycle.Event :=
  [.answer (.ok (.list [])), .takePermit, .popSlot, .send, .elsewhere (.start 0),
    .elsewhere (.finish 0 none), .receive]

/-- The context that the actions of a cycle get. -/
def Cycle.Stage.acted? : Cycle.Stage → Option AlertContext
  | .acting c _ => some c
  | _ => none

theorem Cycle.Stage.exists_acting {stage : Cycle.Stage} {c : AlertContext}
    (h : stage.acted? = some c) : ∃ stages, stage = .acting c stages := by
  cases stage with
  | acting c' stages =>
    cases h
    exact ⟨stages, rfl⟩
  | _ => cases h

/-- The condition saw its own name and start, and what it left in the end comes back. -/
theorem context_framed_rebound :
    ∃ p s c' stages v, Pool.create 1 (some ownNames) = .ok p ∧
      rebinder.steps? (Cycle.start p) judged = some s ∧ s.stage = .acting c' stages ∧
      c'.name = "disk" ∧ c'.startedTs = 18446744073709551615 ∧
      c'.result.display = "[[\"disk\",\"9223372036854775807\"]]" ∧
      s.answer = some (.ok v) ∧
      p.fresh.Leaves rebinder.alert.condition (rebinder.context v) c' := by
  have runs : ((Pool.create 1 (some ownNames)).toOption.map fun p =>
      (rebinder.steps? (Cycle.start p) judged).bind fun s =>
        s.stage.acted?.map fun c' => c'.result.display)
      = some (some "[[\"disk\",\"9223372036854775807\"]]") := by
    decide +kernel
  obtain ⟨p, created, runs⟩ := eq_ok_of_toOption_map runs
  obtain ⟨s, cycle, runs⟩ := Option.bind_eq_some_iff.mp runs
  obtain ⟨c', acted, shown⟩ := Option.map_eq_some_iff.mp runs
  obtain ⟨stages, acting⟩ := Cycle.Stage.exists_acting acted
  obtain ⟨-, framed⟩ := context_framed created
  obtain ⟨-, left⟩ := framed [] p rfl
  obtain ⟨v, answer, leaves⟩ := left rebinder judged s c' stages cycle acting
  exact ⟨p, s, c', stages, v, created, cycle, acting, leaves.name, leaves.startedTs, shown, answer,
    leaves⟩

end Lookout
