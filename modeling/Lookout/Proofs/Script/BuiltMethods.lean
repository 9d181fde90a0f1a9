/-
The methods of lists, dictionaries and texts, and values on their way into a script, as steps of
evaluation.
-/
import Lookout.Proofs.Script.BuiltData
import Lookout.Script.Builtins

namespace Lookout.Script.Built

/-! ### Lists -/

theorem itemPlace (a : Addr) (item : Datum) (start stop : Option Int) :
    Built (Eval.itemPlace a item start stop) := by
  refine .bind (.read fun _ _ _ => rfl) fun items => .readOr fun m c b => ?_
  rw [withClock_equal]

theorem callListMethod (a : Addr) (m : ListMethod) (args : Arguments) :
    Built (Eval.callListMethod a m args) := by
  cases m with
  | append => exact .bind (.positionalOnly _ _ _) fun _ => .map (.changeItems _ _) _
  | clear => exact .bind (.positionalOnly _ _ _) fun _ => .map (.changeItems _ _) _
  | extend => exact .bind (.positionalOnly _ _ _) fun _ => .map (.extendList _ _) _
  | index =>
      refine .bind (.positionalOnly _ _ _) fun _ => .bind (.maybeInt _ _) fun _ =>
        .bind (.maybeInt _ _) fun _ => .bind (.itemPlace _ _ _ _) fun place => ?_
      cases place with
      | some i => exact .pure _
      | none => exact .bind (.shown _) fun _ => .bind (.shown _) fun _ => .fail _
  | insert =>
      exact .bind (.positionalOnly _ _ _) fun _ => .bind (.intParam _ _ _) fun _ =>
        .bind (.checkMutable _) fun _ => .bind (.read fun _ _ _ => rfl) fun _ =>
        .map (.changeItems _ _) _
  | pop =>
      exact .bind (.positionalOnly _ _ _) fun _ => .bind (.optionalInt _ _) fun _ =>
        .bind (.checkMutable _) fun _ => .bind (.readItems _) fun _ =>
        .ite (.map (.changeItems _ _) _) (.fail _)
  | remove =>
      refine .bind (.positionalOnly _ _ _) fun _ => .bind (.itemPlace _ _ _ _) fun place => ?_
      cases place with
      | some i => exact .map (.changeItems _ _) _
      | none => exact .bind (.shown _) fun _ => .bind (.shown _) fun _ => .fail _

/-! ### Dictionaries -/

theorem pairOf (fault : Fault) (d : Datum) : Built (Eval.pairOf fault d) := by
  refine .bind (.itemsOf _) fun items => ?_
  split
  · exact .pure _
  · exact .fail _

theorem enterPairs (a : Addr) (fault : Fault) :
    ∀ items : List Datum, Built (Eval.enterPairs a fault items) := by
  intro items
  induction items with
  | nil => exact .pure _
  | cons d ds ih =>
      exact .bind (.pairOf _ _) fun _ => .bind (.enterKey _ _ _) fun _ => ih

theorem enterAll (a : Addr) :
    ∀ entries : List (Datum × Datum), Built (Eval.enterAll a entries) := by
  intro entries
  induction entries with
  | nil => exact .pure _
  | cons e rest ih => exact .bind (.enterKey _ _ _) fun _ => ih

theorem enterFrom (a : Addr) (fault : Fault) (source : Datum) :
    Built (Eval.enterFrom a fault source) := by
  unfold Eval.enterFrom
  split
  · exact .bind (.readEntries _) fun _ => .enterAll _ _
  · exact .bind (.itemsOf _) fun _ => .enterPairs _ _ _

theorem removeKey (a : Addr) (key : Datum) : Built (Eval.removeKey a key) := by
  refine .bind (.readOr fun m c b => withClock_keyPlace m c b a key) fun place => ?_
  cases place with
  | none => exact .pure _
  | some i => exact .bind (.readEntries _) fun _ => .map (.changeEntries _ _) _

theorem callDictMethod (a : Addr) (m : DictMethod) (args : Arguments) :
    Built (Eval.callDictMethod a m args) := by
  cases m with
  | clear => exact .bind (.positionalOnly _ _ _) fun _ => .map (.changeEntries _ _) _
  | get => exact .bind (.positionalOnly _ _ _) fun _ => .map (.lookup _ _) _
  | items =>
      exact .bind (.positionalOnly _ _ _) fun _ => .bind (.readEntries _) fun _ => .newList _
  | keys =>
      exact .bind (.positionalOnly _ _ _) fun _ => .bind (.readEntries _) fun _ => .newList _
  | values =>
      exact .bind (.positionalOnly _ _ _) fun _ => .bind (.readEntries _) fun _ => .newList _
  | pop =>
      refine .bind (.positionalOnly _ _ _) fun given => .bind (.checkMutable _) fun _ =>
        .bind (.removeKey _ _) fun removed => ?_
      cases removed with
      | some d => exact .pure _
      | none =>
          dsimp only
          split
          · exact .pure _
          · exact .bind (.shown _) fun _ => .bind (.shown _) fun _ => .fail _
  | popitem =>
      refine .bind (.positionalOnly _ _ _) fun _ => .bind (.checkMutable _) fun _ =>
        .bind (.readEntries _) fun entries => ?_
      cases entries with
      | nil => exact .fail _
      | cons e rest => exact .map (.changeEntries _ _) _
  | setdefault =>
      refine .bind (.positionalOnly _ _ _) fun _ => .bind (.checkMutable _) fun _ =>
        .bind (.lookup _ _) fun found => ?_
      cases found with
      | some d => exact .pure _
      | none => exact .map (.enterKey _ _ _) _
  | update =>
      refine .bind (.positionalOnly _ _ _) fun given => .bind (.checkMutable _) fun _ => ?_
      cases given with
      | nil => exact .map (.enterAll _ _) _
      | cons source _ => exact .bind (.enterFrom _ _ _) fun _ => .map (.enterAll _ _) _

/-! ### Texts -/

theorem searchParams (text : List Char) (args : Arguments) :
    Built (Eval.searchParams text args) :=
  .bind (.positionalOnly _ _ _) fun _ => .bind (.textParam _ _) fun _ =>
    .bind (.maybeInt _ _) fun _ => .map (.maybeInt _ _) _

theorem foundAt (search : List Char → List Char → List Nat) (text : List Char)
    (args : Arguments) : Built (Eval.foundAt search text args) :=
  .map (.searchParams _ _) _

theorem indexMethod (search : List Char → List Char → List Nat) (text : List Char)
    (args : Arguments) : Built (Eval.indexMethod search text args) := by
  refine .bind (.foundAt _ _ _) fun (part, found) => ?_
  cases found with
  | some i => exact .pure _
  | none => exact .fail _

theorem affixes (param : String) (d : Datum) : Built (Eval.affixes param d) := by
  cases d with
  | string s => exact .pure _
  | tuple items =>
      refine .mapM (fun item => ?_) items
      cases item with
      | string s => exact .pure _
      | _ => exact .wrongParam _ _ _
  | _ => exact .wrongParam _ _ _

theorem affixMethod (param : String) (check : List Char → Bool) (args : Arguments) :
    Built (Eval.affixMethod param check args) :=
  .bind (.positionalOnly _ _ _) fun _ => .map (.affixes _ _) _

theorem stripMethod (strip : (Char → Bool) → List Char) (args : Arguments) :
    Built (Eval.stripMethod strip args) := by
  refine .bind (.positionalOnly _ _ _) fun _ =>
    .bind (.optionalParam (fun _ => .textParam _ _) _) fun chars => ?_
  cases chars with
  | some s => exact .pure _
  | none => exact .pure _

theorem partitionMethod (search : List Char → List Char → List Nat) (missing : Datum)
    (text : List Char) (args : Arguments) :
    Built (Eval.partitionMethod search missing text args) := by
  refine .bind (.positionalOnly _ _ _) fun _ => .bind (.textParam _ _) fun part =>
    .ite (.fail _) ?_
  split
  · exact .pure _
  · exact .pure _

theorem splitMethod (atSeparator : List Char → Option Nat → List (List Char))
    (byBlanks : Option Nat → List (List Char)) (args : Arguments) :
    Built (Eval.splitMethod atSeparator byBlanks args) :=
  .bind (.positionalOnly _ _ _) fun _ => .bind (.maybeText _ _) fun _ =>
    .bind (.maybeInt _ _) fun _ => .newList _

theorem joinMethod (text : String) (args : Arguments) : Built (Eval.joinMethod text args) :=
  .bind (.positionalOnly _ _ _) fun _ => .bind (.itemsOf _) fun _ =>
    .map (.mapM (fun _ => .textParam _ _) _) _

theorem replaceMethod (text : List Char) (args : Arguments) :
    Built (Eval.replaceMethod text args) := by
  refine .bind (.positionalOnly _ _ _) fun _ => .bind (.textParam _ _) fun _ =>
    .bind (.textParam _ _) fun _ => .bind (.optionalInt _ _) fun count => ?_
  cases count with
  | none => exact .pure _
  | some n => exact .ite (.fail _) (.pure _)

theorem checkMethod (answer : Bool) (args : Arguments) : Built (Eval.checkMethod answer args) :=
  .map (.positionalOnly _ _ _) _

theorem textMethod (answer : List Char) (args : Arguments) :
    Built (Eval.textMethod answer args) :=
  .map (.positionalOnly _ _ _) _

theorem callTextMethod (owner : String) (m : TextMethod) (args : Arguments) :
    Built (Eval.callTextMethod owner m args) := by
  unfold Eval.callTextMethod
  cases m with
  | codepoints => exact .map (.positionalOnly _ _ _) _
  | elems => exact .map (.positionalOnly _ _ _) _
  | count => exact .map (.searchParams _ _) _
  | find => exact .map (.foundAt _ _ _) _
  | rfind => exact .map (.foundAt _ _ _) _
  | index => exact .indexMethod _ _ _
  | rindex => exact .indexMethod _ _ _
  | startswith => exact .affixMethod _ _ _
  | endswith => exact .affixMethod _ _ _
  | format => exact .formatBraces _ _ _
  | join => exact .joinMethod _ _
  | replace => exact .replaceMethod _ _
  | partition => exact .partitionMethod _ _ _ _
  | rpartition => exact .partitionMethod _ _ _ _
  | split => exact .splitMethod _ _ _
  | rsplit => exact .splitMethod _ _ _
  | strip => exact .stripMethod _ _
  | lstrip => exact .stripMethod _ _
  | rstrip => exact .stripMethod _ _
  | withoutStart => exact .bind (.positionalOnly _ _ _) fun _ => .map (.textParam _ _) _
  | withoutEnd => exact .bind (.positionalOnly _ _ _) fun _ => .map (.textParam _ _) _
  | splitlines =>
      exact .bind (.positionalOnly _ _ _) fun _ =>
        .bind (.optionalParam (fun _ => .boolParam _ _) _) fun _ => .newList _
  | isalnum => exact .checkMethod _ _
  | isalpha => exact .checkMethod _ _
  | isdigit => exact .checkMethod _ _
  | islower => exact .checkMethod _ _
  | isspace => exact .checkMethod _ _
  | istitle => exact .checkMethod _ _
  | isupper => exact .checkMethod _ _
  | _ => exact .textMethod _ _

/-! ### Values -/

mutual

theorem ofValue (number : Number → Datum) : ∀ v : Value, Built (Eval.ofValue number v)
  | .null => .pure _
  | .bool _ => .pure _
  | .number _ => .pure _
  | .string _ => .pure _
  | .list items => .bind (ofValues number items) fun _ => .newList _
  | .map entries => .bind (ofEntries number entries) fun _ => .newDict _

theorem ofValues (number : Number → Datum) :
    ∀ vs : List Value, Built (Eval.ofValues number vs)
  | [] => .pure _
  | v :: vs => .bind (ofValue number v) fun _ => .map (ofValues number vs) _

theorem ofEntries (number : Number → Datum) :
    ∀ entries : List (String × Value), Built (Eval.ofEntries number entries)
  | [] => .pure _
  | (_, v) :: entries => .bind (ofValue number v) fun _ => .map (ofEntries number entries) _

end

end Lookout.Script.Built
