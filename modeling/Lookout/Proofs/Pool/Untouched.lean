/-
What a condition that leaves the result alone makes of it.

Such a condition should hand on the result as it was.  It does so only if all integers in the
result fit in 32 bits: the crossing into the script and back changes all others, however deep
they lie, and changes nothing else.
-/
import Lookout.Proofs.Pool.Evaluate
import Lookout.Proofs.Script.Globals

namespace Lookout

open Script (Interpreter Machine)

namespace Script

/-- The condition comes to its end, and then `result` still stands for the datum that was made
for the result of the context, with its cells as they were made. -/
def Interpreter.LeavesResult (i : Interpreter) (source : String) (c : AlertContext) :
    Prop :=
  ∃ (d : Datum) (made : Machine) (frame : Addr) (last : Option Datum) (m : Machine),
    (Eval.ofValue Num.ofNumber c.result).run ⟨i.cells, i.cells.size, none, 0⟩ = .ok d made ∧
    i.Finishes source c frame last m ∧
    (m.bindings frame).lookup "result" = some (some d) ∧
    ∀ a, i.cells.size ≤ a → a < made.cells.size → m.cells[a]? = made.cells[a]?

/-- A name that is not bound in the script is read off what the script starts with. -/
theorem run_name {given : List (String × Datum)} {name : String} {d : Datum}
    (hbuiltin : builtinNames.lookup name = some d) {m : Machine} {frame : Addr}
    (hframe : m.cells[frame]? = some (.frame none (given.map fun (n, d) => (n, some d))))
    {s : Scope} (hs : s.frame = frame) :
    (Eval.nameIn s name).run m = .ok ((given.lookup name).getD d) m := by
  have hnamed : m.named s.frame name = .ok ((given.lookup name).getD d) := by
    unfold Machine.named Machine.binding?
    rw [hs, hframe]
    dsimp only
    rw [lookup_map_some]
    cases given.lookup name with
    | none =>
        dsimp only [Option.map_none]
        rw [hbuiltin]
        rfl
    | some e => rfl
  show (Eval.ofExcept (m.named s.frame name)).run m = _
  rw [hnamed]
  rfl

theorem parse_true : parse "True" = .ok [.expr (.name "True")] := by rfl

theorem unboundName?_true (given : List (String × Datum)) :
    unboundName? given [.expr (.name "True")] = none := by
  simp [unboundName?, unknownStmt?, Stmt.unknown?, Expr.unknown?, builtinNames]

/-- The shortest condition that holds leaves every result alone, in every interpreter. -/
theorem Interpreter.leavesResult_true (i : Interpreter) (c : AlertContext) :
    i.LeavesResult "True" c := by
  obtain ⟨d, cells, hmade, -, -⟩ := run_ofValue c.result ⟨i.cells, i.cells.size, none, 0⟩
  let bindings := (i.given c d).map fun (n, d) => (n, some d)
  let m : Machine := ⟨cells.push (.frame none bindings), i.cells.size, none, 1⟩
  have hframe : m.cells[cells.size]? = some (.frame none bindings) := Array.getElem?_push_size
  have hrun : (i.condition c [.expr (.name "True")]).run ⟨i.cells, i.cells.size, none, 0⟩
      = .ok (cells.size, some (((i.given c d).lookup "True").getD (.bool true))) m := by
    have hbegin : Eval.beginStatement.run { m with begun := 0 } = .ok () m := rfl
    have hbound : withBound (i.given c d) [.expr (.name "True")] = bindings := by
      unfold withBound
      exact List.append_nil _
    have halloc : (Eval.alloc (.frame none bindings)).run ⟨cells, i.cells.size, none, 0⟩
        = .ok cells.size { m with begun := 0 } := rfl
    unfold Interpreter.condition runTop Eval.script Eval.expr
    rw [EStateM.run_bind, hmade]
    dsimp only
    rw [hbound, EStateM.run_bind, halloc]
    dsimp only
    rw [EStateM.run_bind, EStateM.run_bind, hbegin]
    dsimp only
    rw [EStateM.run_bind, run_name rfl hframe rfl]
    rfl
  refine ⟨d, _, cells.size, _, m, hmade, ⟨_, parse_true, unboundName?_true _, hrun⟩, ?_, ?_⟩
  · unfold Machine.bindings
    rw [hframe]
    dsimp only [bindings]
    rw [lookup_map_some]
    rfl
  · intro a _ ha
    exact Array.getElem?_push_lt ha ▸ (Array.getElem?_eq_getElem ha).symm

end Script

namespace Pool

variable {i : Interpreter} {source : String} {c : AlertContext}

/-- The value read back from a result that was left alone. -/
theorem run_of_leavesResult (h : i.LeavesResult source c) (hordered : c.result.Ordered) :
    ∃ matched, (i.run none source c).1 = .ok ⟨matched, c.result.crossed⟩ := by
  obtain ⟨d, made, frame, last, m, hmade, hfin, hbound, hsame⟩ := h
  obtain ⟨d', cells, hrun, hgrown, hwritten⟩ :=
    Script.run_ofValue c.result ⟨i.cells, i.cells.size, none, 0⟩
  rw [hrun] at hmade
  cases hmade
  have hsize : cells.size ≤ m.cells.size := by
    by_contra hless
    have hlt : m.cells.size < cells.size := Nat.lt_of_not_le hless
    have hlost := hsame m.cells.size hfin.size_le hlt
    rw [Array.getElem?_eq_none (Nat.le_refl _), Array.getElem?_eq_getElem hlt] at hlost
    cases hlost
  have hleft : m.resultLeft frame = .ok c.result.crossed := by
    unfold Machine.resultLeft
    rw [hbound]
    exact Script.toValue_of_written (hwritten.mono (Nat.le_refl _) (Nat.le_refl _) hsame) hsize
      hordered
  refine ⟨m.decided last, ?_⟩
  rw [hfin.run_eq, Interpreter.readOutcome_eq, hleft]
  rfl

/-- **A result that a condition leaves alone comes back as it crossed, and unchanged only if its
integers fit in 32 bits.**  This is so for every pool that could be started, with whatever helper
script, and for every condition that comes to its end and is not given up on. -/
theorem result_crossed {size : Nat} {helpers : Option String} {p : Pool}
    (hp : create size helpers = .ok p) (hordered : c.result.Ordered)
    (hleft : p.fresh.LeavesResult source c) (patience : Option Nat)
    (hdone : (p.evaluate patience ⟨source, c⟩).1 ≠ .gaveUp) :
    ∃ o, (p.evaluate patience ⟨source, c⟩).1 = .answered (.ok o) ∧
      (c.withResult o.result).result = c.result.crossed ∧
      ((c.withResult o.result).result = c.result ↔ c.result.IntegersFit) := by
  obtain ⟨i, hsize, rfl⟩ := eq_new_of_create hp
  obtain ⟨matched, hrun⟩ := run_of_leavesResult hleft hordered
  have hevaluate := ((atRest_new hsize i).evaluate patience ⟨source, c⟩).1
  have hfull : (i.run patience source c).1 ≠ .error .cancelled := by
    intro hcancelled
    rw [hcancelled] at hevaluate
    exact hdone hevaluate
  rw [i.run_of_not_cancelled hfull] at hevaluate
  have hrun : (i.run none source c).1 = .ok ⟨matched, c.result.crossed⟩ := hrun
  rw [hrun] at hevaluate
  exact ⟨⟨matched, c.result.crossed⟩, hevaluate, rfl, c.result.crossed_eq_iff⟩

/-- Of two counts the one that is too wide comes back as text. -/
theorem result_crossed_list :
    let c : AlertContext :=
      ⟨"count", 0, .list [.number (.int 7 (by decide)), .number (.int 4294967296 (by decide))]⟩
    ∃ o, ((new 1 Interpreter.bare).evaluate none ⟨"True", c⟩).1 = .answered (.ok o) ∧
      o.result = .list [.number (.int 7 (by decide)), .string "4294967296"] := by
  intro c
  have hordered : c.result.Ordered := ⟨trivial, trivial, trivial⟩
  obtain ⟨o, ho, hcrossed, -⟩ := @result_crossed "True" c 1 none (new 1 .bare) rfl hordered
    (Interpreter.leavesResult_true _ c) none
    ((atRest_new Nat.one_pos .bare).evaluate_none_ne_gaveUp _)
  exact ⟨o, ho, hcrossed⟩

/-- An integer that a number holds and that a condition leaves alone may be lost. -/
theorem count_lost :
    let c : AlertContext := ⟨"count", 0, .number (.int 18446744073709551615 (by decide))⟩
    ∃ p o, create 1 none = .ok p ∧ p.fresh.LeavesResult "True" c ∧
      (p.evaluate none ⟨"True", c⟩).1 = .answered (.ok o) ∧ o.result ≠ c.result := by
  intro c
  have hleaves := Interpreter.leavesResult_true .bare c
  obtain ⟨matched, hrun⟩ := run_of_leavesResult hleaves trivial
  have hevaluate := ((atRest_new Nat.one_pos .bare).evaluate none ⟨"True", c⟩).1
  rw [hrun] at hevaluate
  refine ⟨new 1 .bare, _, rfl, hleaves, hevaluate, fun hsame => ?_⟩
  have hfits := c.result.crossed_eq_iff.mp hsame
  have hlow : (18446744073709551615 : Int) < 0x80000000 := hfits.2
  omega

end Pool

end Lookout
