/-
The methods of lists and dictionaries.

A method that changes its owner first checks that this is allowed.
-/
import Lookout.Script.Arguments
import Lookout.Script.Operators

namespace Lookout.Script

/-- The place of the first item that the check accepts, counted on from `i`. -/
def findItem {α : Type} (check : α → Except Fault Bool) (i : Nat) :
    List α → Except Fault (Option Nat)
  | [] => .ok none
  | x :: xs => do
    if ← check x then .ok (some i) else findItem check (i + 1) xs

namespace Eval

/-! ### Lists -/

/-- The place of an item in part of a list, if it is there. -/
def itemPlace (a : Addr) (item : Datum) (start stop : Option Int) : Eval (Option Nat) := do
  let items ← read fun m => (m.items a).toList
  let low := clamp 0 items.length (fromFront items.length (start.getD 0))
  let high := clamp 0 items.length (fromFront items.length (stop.getD items.length))
  readOr fun m => findItem (m.equal item) low.toNat ((items.take high.toNat).drop low.toNat)

/-- A method of a list called. -/
def callListMethod (a : Addr) (m : ListMethod) (args : Arguments) : Eval Datum :=
  match m with
  | .append => do
    let given ← positionalOnly args 1 1
    changeItems a fun items => items ++ given.toArray
    pure .none
  | .clear => do
    let _ ← positionalOnly args 0 0
    changeItems a fun _ => #[]
    pure .none
  | .extend => do
    let given ← positionalOnly args 1 1
    extendList a (given.headD .none)
    pure .none
  | .index => do
    let given ← positionalOnly args 1 3
    let item := given.headD .none
    let start ← maybeInt "start" given[1]?
    let stop ← maybeInt "end" given[2]?
    match ← itemPlace a item start stop with
    | some i => pure (.int i)
    | none =>
      let text ← shown item
      let whole ← shown (.list a)
      fail (.notInSequence text whole)
  | .insert => do
    let given ← positionalOnly args 2 2
    let n ← intParam "index" "int" (given.headD .none)
    checkMutable a
    let size ← read fun m => (m.items a).size
    let i := (clamp 0 size (fromFront size n)).toNat
    changeItems a fun items => items.take i ++ #[given.getD 1 .none] ++ items.drop i
    pure .none
  | .pop => do
    let given ← positionalOnly args 0 1
    let n ← optionalParam (intParam "index" "int") given[0]?
    checkMutable a
    let items ← read fun m => m.items a
    let i := n.getD ((items.size : Int) - 1)
    if 0 ≤ i ∧ i < items.size then
      changeItems a fun items => items.take i.toNat ++ items.drop (i.toNat + 1)
      pure (items.getD i.toNat .none)
    else fail (.indexOutOfBound i)
  | .remove => do
    let given ← positionalOnly args 1 1
    let item := given.headD .none
    match ← itemPlace a item none none with
    | some i =>
      changeItems a fun items => items.take i ++ items.drop (i + 1)
      pure .none
    | none =>
      let text ← shown item
      let whole ← shown (.list a)
      fail (.notInList text whole)

/-! ### Dictionaries -/

/-- The entries of named arguments. -/
def namedEntries (named : List (String × Datum)) : List (Datum × Datum) :=
  named.map fun (name, d) => (.string name, d)

/-- The two items of a pair, or the given fault. -/
def pairOf (fault : Fault) (d : Datum) : Eval (Datum × Datum) := do
  match ← itemsOf d with
  | [key, value] => pure (key, value)
  | _ => fail fault

/-- Pairs entered one after the other. -/
def enterPairs (a : Addr) (fault : Fault) : List Datum → Eval Unit
  | [] => pure ()
  | d :: ds => do
    let (key, value) ← pairOf fault d
    enterKey a key value
    enterPairs a fault ds

/-- Entries entered one after the other. -/
def enterAll (a : Addr) : List (Datum × Datum) → Eval Unit
  | [] => pure ()
  | (key, value) :: entries => do
    enterKey a key value
    enterAll a entries

/-- The entries of a dictionary, or of pairs, entered into a dictionary. -/
def enterFrom (a : Addr) (fault : Fault) (source : Datum) : Eval Unit :=
  match source with
  | .dict b => do
    let entries ← read fun m => m.entries b
    enterAll a entries
  | d => do
    let items ← itemsOf d
    enterPairs a fault items

/-- Removes a key from a dictionary and gives what it was bound to. -/
def removeKey (a : Addr) (key : Datum) : Eval (Option Datum) := do
  let place ← readOr fun m => m.keyPlace a key
  match place with
  | none => pure none
  | some i =>
    let entries ← read fun m => m.entries a
    changeEntries a fun entries => entries.eraseIdx i
    pure (entries[i]?.map (·.2))

/-- A method of a dictionary called. -/
def callDictMethod (a : Addr) (m : DictMethod) (args : Arguments) : Eval Datum :=
  match m with
  | .clear => do
    let _ ← positionalOnly args 0 0
    changeEntries a fun _ => []
    pure .none
  | .get => do
    let given ← positionalOnly args 1 2
    let found ← lookup a (given.headD .none)
    pure (found.getD (given.getD 1 .none))
  | .items => do
    let _ ← positionalOnly args 0 0
    let entries ← read fun m => m.entries a
    newList (entries.map fun (key, value) => .tuple [key, value])
  | .keys => do
    let _ ← positionalOnly args 0 0
    let entries ← read fun m => m.entries a
    newList (entries.map (·.1))
  | .pop => do
    let given ← positionalOnly args 1 2
    let key := given.headD .none
    checkMutable a
    match ← removeKey a key with
    | some d => pure d
    | none =>
      match given[1]? with
      | some d => pure d
      | none =>
        let text ← shown key
        let whole ← shown (.dict a)
        fail (.keyNotInDict text whole)
  | .popitem => do
    let _ ← positionalOnly args 0 0
    checkMutable a
    let entries ← read fun m => m.entries a
    match entries with
    | [] => fail .emptyDict
    | (key, value) :: rest =>
      changeEntries a fun _ => rest
      pure (.tuple [key, value])
  | .setdefault => do
    let given ← positionalOnly args 1 2
    let key := given.headD .none
    checkMutable a
    match ← lookup a key with
    | some d => pure d
    | none =>
      let d := given.getD 1 .none
      enterKey a key d
      pure d
  | .update => do
    let given ← positionalOnly ⟨args.positional, []⟩ 0 1
    checkMutable a
    match given with
    | source :: _ => enterFrom a .updateWithoutPairs source
    | [] => pure ()
    enterAll a (namedEntries args.named)
    pure .none
  | .values => do
    let _ ← positionalOnly args 0 0
    let entries ← read fun m => m.entries a
    newList (entries.map (·.2))

end Eval

end Lookout.Script
