/-
The functions that every script can use.

Those that call other functions are given the way to do so.  Most take their arguments by
position only; a few have named ones, and those bind their arguments by a list of parameters.
-/
import Lookout.Script.Containers
import Lookout.Script.Exchange
import Lookout.Script.TextMethods
import Lookout.Json.Reader

namespace Lookout.Script

/-! ### Attributes -/

/-- The functions under `json`. -/
def jsonNamespace : Datum :=
  .struct [("decode", .builtin .jsonDecode), ("encode", .builtin .jsonEncode)]

/-- The attribute of a datum. -/
def attribute? (d : Datum) (name : String) : Option Datum :=
  match d with
  | .string s => (TextMethod.named.lookup name).map (.textMethod s)
  | .list a => (ListMethod.named.lookup name).map (.listMethod a)
  | .dict a => (DictMethod.named.lookup name).map (.dictMethod a)
  | .struct fields => fields.lookup name
  | _ => none

/-- The names of the attributes of a datum, in order. -/
def attributeNames : Datum → List String
  | .string _ => TextMethod.named.map (·.1)
  | .list _ => ListMethod.named.map (·.1)
  | .dict _ => DictMethod.named.map (·.1)
  | .struct fields => (fields.map (·.1)).mergeSort fun a b => !(b < a)
  | _ => []

/-! ### Parameters -/

/-- A parameter of a built-in function. -/
structure NativeParam where
  name : String
  required : Bool
  byPosition : Bool
  byName : Bool

/-- The data that parameters take: those by position in order, those by name from the list of
named arguments. -/
def nativeData : List NativeParam → Arguments → List (Option Datum)
  | [], _ => []
  | p :: ps, args =>
    if p.byPosition then
      match args.positional with
      | d :: ds => some d :: nativeData ps ⟨ds, args.named⟩
      | [] => (if p.byName then args.named.lookup p.name else none) :: nativeData ps args
    else args.named.lookup p.name :: nativeData ps args

/-- The first parameter that is required and has nothing. -/
def firstMissing : List NativeParam → List (Option Datum) → Option String
  | p :: ps, d :: ds =>
    if p.required && d.isNone then some p.name else firstMissing ps ds
  | _, _ => none

namespace Eval

/-- The data of the parameters of a function, after all checks. -/
def bindNative (function : String) (params : List NativeParam) (args : Arguments) :
    Eval (List (Option Datum)) := do
  let places := params.filter (·.byPosition)
  let taken := (places.take args.positional.length).filter (·.byName)
  match args.named.find? fun n => taken.any fun p => p.name = n.1 with
  | some (name, _) => fail (.repeatedArgument name)
  | none =>
    let data := nativeData params args
    let unknown := args.named.filter fun n => !params.any fun p => p.byName && p.name = n.1
    match firstMissing params data with
    | some name => fail (.missingParam name function)
    | none =>
      if places.length < args.positional.length then
        fail (.extraPositional (args.positional.length - places.length) function)
      else if !unknown.isEmpty then fail (.extraNamed (unknown.map (·.1)) function)
      else pure data

/-! ### Going through data -/

/-- A step on the items of a datum, which cannot be changed meanwhile. -/
def overItems {α : Type} (source : Datum) (step : List Datum → Eval α) : Eval α := do
  let items ← itemsOf source
  match source with
  | .list a => reading a (step items)
  | .dict a => reading a (step items)
  | _ => step items

/-- A way to call a datum. -/
abbrev Caller : Type :=
  Datum → Arguments → Eval Datum

/-- The results of a function for some data. -/
def applyEach (call : Caller) (f : Datum) : List Datum → Eval (List Datum)
  | [] => pure []
  | d :: ds => do
    let r ← call f ⟨[d], []⟩
    let rs ← applyEach call f ds
    pure (r :: rs)

/-- The data that a function holds true of; with nothing for a function, those that are not
nothing. -/
def keepTrue (call : Caller) (f : Datum) : List Datum → Eval (List Datum)
  | [] => pure []
  | d :: ds => do
    let kept ← match f with
      | .none =>
        pure (match d with
          | .none => false
          | _ => true)
      | f => do
        let r ← call f ⟨[d], []⟩
        truth r
    let rest ← keepTrue call f ds
    pure (if kept then d :: rest else rest)

/-- The best of some data, where `better` says which order makes the second one better; each
datum comes with its key. -/
def bestOf (better : Ordering → Bool) (keyOf : Datum → Eval Datum) (best key : Datum) :
    List Datum → Eval Datum
  | [] => pure best
  | d :: ds => do
    let other ← keyOf d
    let order ← compare key other
    if better order then bestOf better keyOf d other ds else bestOf better keyOf best key ds

/-- The greatest or least datum. -/
def extreme (call : Caller) (function : String) (better : Ordering → Bool) (args : Arguments) :
    Eval Datum := do
  let data ← bindNative function [⟨"key", false, false, true⟩] ⟨[], args.named⟩
  let keyOf (d : Datum) : Eval Datum :=
    match data.head?.join with
    | some f => call f ⟨[d], []⟩
    | none => pure d
  let choose (items : List Datum) : Eval Datum :=
    match items with
    | [] => fail .emptyIterable
    | d :: ds => do
      let key ← keyOf d
      bestOf better keyOf d key ds
  match args.positional with
  | [source] => overItems source choose
  | items => choose items

/-! ### Sorting -/

end Eval

/-- A datum put into a sorted list whose last item comes first.  Where two cannot be compared
they stay as they are, and the fault is given. -/
def insertLast {α : Type} (order : α → α → Except Fault Ordering) (x : α) :
    List α → List α × Option Fault
  | [] => ([x], none)
  | y :: ys =>
    match order x y with
    | .ok .lt =>
      let (rest, fault) := insertLast order x ys
      (y :: rest, fault)
    | .ok _ => (x :: y :: ys, none)
    | .error f => (x :: y :: ys, some f)

/-- A list sorted, with equal items in their order; of several faults the last one counts. -/
def insertionSort {α : Type} (order : α → α → Except Fault Ordering) (items : List α) :
    Except Fault (List α) :=
  let step (state : List α × Option Fault) (x : α) : List α × Option Fault :=
    let (sorted, fault) := insertLast order x state.1
    (sorted, fault.or state.2)
  match items.foldl step ([], none) with
  | (sorted, none) => .ok sorted.reverse
  | (_, some f) => .error f

namespace Eval

/-- The items of a datum, sorted. -/
def sortedItems (call : Caller) (args : Arguments) : Eval Datum := do
  let data ← bindNative "sorted"
    [⟨"x", true, true, false⟩, ⟨"key", false, false, true⟩, ⟨"reverse", false, false, true⟩] args
  let items ← itemsOf (data.head?.join.getD .none)
  let backwards ← optionalParam (boolParam "reverse") (data[2]?.join)
  let keys ← match data[1]?.join with
    | some f => applyEach call f items
    | none => pure items
  let sorted ← readOr fun m =>
    insertionSort (fun (x y : Datum × Datum) =>
      if backwards.getD false then m.compare y.1 x.1 else m.compare x.1 y.1) (keys.zip items)
  newList (sorted.map (·.2))

/-! ### Numbers -/

end Eval

/-- The value of a digit in bases up to 36. -/
def digitValue? (c : Char) : Option Nat :=
  if c.isDigit then some (c.toNat - 48)
  else if 'a' ≤ c ∧ c ≤ 'z' then some (c.toNat - 87)
  else if 'A' ≤ c ∧ c ≤ 'Z' then some (c.toNat - 55)
  else none

/-- The number that digits write in a base; behind the first digit there may be low lines. -/
def readDigits? (base : Nat) (cs : List Char) : Option Nat :=
  match cs with
  | [] => none
  | '_' :: _ => none
  | cs =>
    cs.foldl (fun value c =>
      value.bind fun n =>
        if c = '_' then some n
        else (digitValue? c).bind fun d => if d < base then some (n * base + d) else none) (some 0)

/-- The mark in front of the digits of some bases. -/
def baseMarks : List (Nat × List (List Char)) :=
  [(2, [['0', 'b'], ['0', 'B']]), (8, [['0', 'o'], ['0', 'O']]), (16, [['0', 'x'], ['0', 'X']])]

/-- The integer that a text writes. -/
def readInteger (text : String) (given : Int) : Except Fault Int :=
  if given = 1 || given < 0 || 36 < given then .error (.invalidBase given)
  else
    let (negative, cs) := match text.toList with
      | '-' :: r => (true, r)
      | '+' :: r => (false, r)
      | r => (false, r)
    let marked := baseMarks.find? fun b => b.2.contains (cs.take 2)
    let base : Nat := if given = 0 then (marked.map (·.1)).getD 10 else given.toNat
    let digits := if (marked.map (·.1)) = some base then cs.drop 2 else cs
    match readDigits? base digits with
    | some n => .ok (if negative then -n else n)
    | none => .error (.notAnInteger (String.ofList digits) base)

/-- The float that a text writes. -/
def readFloatText (m : Machine) (text : String) : Except Fault Float :=
  match Decimal.readFloat? text.toList with
  | some x =>
    if x.isInf && !occursIn ['i', 'n', 'f'] (Text.lowerFrom [] text.toList) then
      .error (.numberTooLarge text)
    else .ok x
  | none =>
    .error (.notANumber (m.shown (.string text))
      (if text.isEmpty then "cannot parse float from empty string" else "invalid float literal"))

/-- The code units of 16 bits that a character takes. -/
def codeUnits (c : Char) : List Nat :=
  if c.toNat < 0x10000 then [c.toNat]
  else [0xD800 + (c.toNat - 0x10000) / 0x400, 0xDC00 + (c.toNat - 0x10000) % 0x400]

/-- The hash of a text: a number of 32 bits with its sign. -/
def textHash (s : String) : Int :=
  (s.toList.flatMap codeUnits).foldl (fun (h : Int) (n : Nat) => Int.bmod (h * 31 + n) 0x100000000) 0

/-- The character with a code. -/
def characterOf (n : Int) : Except Fault Datum :=
  if n < 0 then .error (.negativeCode n)
  else if Nat.isValidChar n.toNat then .ok (textDatum [Char.ofNat n.toNat])
  else .error (.invalidCode n)

namespace Eval

/-- The types that numbers are made of. -/
def scalarTypes : String := "bool | float | int | str"

/-- The integer that a datum stands for. -/
def toInteger (args : Arguments) : Eval Datum := do
  let data ← bindNative "int" [⟨"a", false, true, false⟩, ⟨"base", false, true, true⟩] args
  let base ← optionalParam (intParam "base" "int") (data[1]?.join)
  match data.head?.join with
  | none => pure (.int 0)
  | some (.string s) => do
    let n ← ofExcept (readInteger s (base.getD 10))
    pure (.int n)
  | some d =>
    let number ← match d with
      | .bool b => pure (Datum.int b.toNat)
      | .int n => pure (.int n)
      | .float x => pure (.float x)
      | d => wrongParam "a" scalarTypes d
    match base with
    | some _ =>
      let text ← shown d
      fail (.baseWithoutText text)
    | none =>
      match number with
      | .float x => do
        let n ← readOr fun m => truncated m x
        pure (.int n)
      | d => pure d

/-- The float that a datum stands for. -/
def toFloat (args : Arguments) : Eval Datum := do
  let given ← positionalOnly args 0 1
  match given with
  | [] => pure (.float 0)
  | .bool b :: _ => pure (.float (if b then 1 else 0))
  | .int n :: _ => pure (.float (Float.ofInt n))
  | .float x :: _ => pure (.float x)
  | .string s :: _ => do
    let x ← readOr fun m => readFloatText m s
    pure (.float x)
  | d :: _ => wrongParam "a" scalarTypes d

/-- A range. -/
def makeRange (args : Arguments) : Eval Datum := do
  let given ← positionalOnly args 1 3
  let first ← intParam "a1" "int" (given.headD .none)
  let second ← optionalParam (intParam "a2" "int") given[1]?
  let third ← optionalParam (intParam "a3" "int") given[2]?
  let step := third.getD 1
  if step = 0 then fail .zeroStep
  else
    match second with
    | none => pure (.range 0 first step)
    | some stop => pure (.range first stop step)

/-! ### The functions -/

/-- The tuples of items at one place. -/
def zipItems : List (List Datum) → List Datum
  | [] => []
  | [items] => items.map fun d => .tuple [d]
  | items :: rest =>
    (items.zip (zipItems rest)).map fun (d, t) =>
      match t with
      | .tuple ds => .tuple (d :: ds)
      | t => t

/-- The length of a datum. -/
def lengthOf (d : Datum) : Eval Datum := do
  match d with
  | .string s => pure (.int s.length)
  | .tuple items => pure (.int items.length)
  | .range start stop step => pure (.int (rangeLength start stop step))
  | .list a =>
    let items ← read fun m => m.items a
    pure (.int items.size)
  | .dict a =>
    let entries ← read fun m => m.entries a
    pure (.int entries.length)
  | d => fail (.unsupported "len()" d.typeName)

/-- A new dictionary of what a datum holds and of named arguments. -/
def makeDict (args : Arguments) : Eval Datum := do
  let given ← positionalOnly ⟨args.positional, []⟩ 0 1
  let a ← alloc (.dict [] 0)
  match given with
  | source :: _ => enterFrom a .notAPair source
  | [] => pure ()
  enterAll a (namedEntries args.named)
  pure (.dict a)

/-- Items with their places. -/
def numbered (args : Arguments) : Eval Datum := do
  let data ← bindNative "enumerate" [⟨"it", true, true, false⟩, ⟨"start", false, true, true⟩] args
  let items ← itemsOf (data.head?.join.getD .none)
  let start ← optionalParam (intParam "start" "int") (data[1]?.join)
  newList (items.zipIdx.map fun (d, i) => .tuple [.int (start.getD 0 + (i : Nat)), d])

/-- The JSON text of a datum. -/
def encodeJson (d : Datum) : Eval Datum := do
  let document ← readOr fun m =>
    match m.plain d with
    | .ok document => .ok document
    | .error e => .error (.notJson e.message)
  pure (textDatum document.text)

/-- The datum of a JSON text. -/
def decodeJson (text : String) : Eval Datum :=
  match Json.parse text with
  | .ok document =>
    ofValue (fun n =>
      match n with
      | .int n _ => .int n
      | .float x _ => .float x) document.toValue
  | .error e => fail (.invalidJson e.message)

/-- The single argument of a function that takes one by position. -/
def onlyArgument (args : Arguments) : Eval Datum := do
  let given ← positionalOnly args 1 1
  pure (given.headD .none)

/-- A built-in function called. -/
def callBuiltin (call : Caller) (b : Builtin) (args : Arguments) : Eval Datum := do
  match b with
  | .abs =>
    match ← onlyArgument args with
    | .int n => pure (.int n.natAbs)
    | .float x => pure (.float x.abs)
    | d => wrongParam "x" "float | int" d
  | .all =>
    let d ← onlyArgument args
    let items ← itemsOf d
    let holds ← read fun m => items.all m.truth
    pure (.bool holds)
  | .any =>
    let d ← onlyArgument args
    let items ← itemsOf d
    let holds ← read fun m => items.any m.truth
    pure (.bool holds)
  | .bool =>
    let given ← positionalOnly args 0 1
    let b ← truth (given.headD (.bool false))
    pure (.bool b)
  | .chr =>
    let d ← onlyArgument args
    let n ← intParam "i" "int" d
    ofExcept (characterOf n)
  | .dict => makeDict args
  | .dir =>
    let d ← onlyArgument args
    newList ((attributeNames d).map .string)
  | .enumerate => numbered args
  | .fail =>
    let texts ← args.positional.mapM plainText
    fail (.failed (String.join (texts.map (" " ++ ·))))
  | .filter =>
    let given ← positionalOnly args 2 2
    let kept ← overItems (given.getD 1 .none) (keepTrue call (given.headD .none))
    newList kept
  | .float => toFloat args
  | .getattr =>
    let given ← positionalOnly args 2 3
    let owner := given.headD .none
    let name ← textParam "attr" (given.getD 1 .none)
    match attribute? owner name, given[2]? with
    | some d, _ => pure d
    | none, some d => pure d
    | none, none => fail (.noAttribute owner.typeName name)
  | .hasattr =>
    let given ← positionalOnly args 2 2
    let name ← textParam "attr" (given.getD 1 .none)
    pure (.bool (attribute? (given.headD .none) name).isSome)
  | .hash =>
    let d ← onlyArgument args
    let s ← textParam "a" d
    pure (.int (textHash s))
  | .int => toInteger args
  | .jsonDecode =>
    let d ← onlyArgument args
    let s ← textParam "x" d
    decodeJson s
  | .jsonEncode =>
    let d ← onlyArgument args
    encodeJson d
  | .len =>
    let d ← onlyArgument args
    lengthOf d
  | .list =>
    let given ← positionalOnly args 0 1
    let items ← match given with
      | d :: _ => itemsOf d
      | [] => pure []
    newList items
  | .map =>
    let given ← positionalOnly args 2 2
    let results ← overItems (given.getD 1 .none) (applyEach call (given.headD .none))
    newList results
  | .max => extreme call "max" (· == .lt) args
  | .min => extreme call "min" (· == .gt) args
  | .ord =>
    let d ← onlyArgument args
    let s ← textParam "a" d
    match s.toList with
    | [c] => pure (.int c.toNat)
    | _ =>
      let text ← shown d
      fail (.notOneCharacter text)
  | .range => makeRange args
  | .repr =>
    let d ← onlyArgument args
    let text ← shown d
    pure (.string text)
  | .reversed =>
    let d ← onlyArgument args
    let items ← itemsOf d
    newList items.reverse
  | .sorted => sortedItems call args
  | .str =>
    let d ← onlyArgument args
    let text ← plainText d
    pure (.string text)
  | .struct =>
    let _ ← positionalOnly ⟨args.positional, []⟩ 0 0
    pure (.struct args.named)
  | .tuple =>
    let given ← positionalOnly args 0 1
    match given with
    | d :: _ =>
      let items ← itemsOf d
      pure (.tuple items)
    | [] => pure (.tuple [])
  | .type =>
    let d ← onlyArgument args
    pure (.string d.typeName)
  | .zip =>
    let columns ← args.positional.mapM itemsOf
    newList (zipItems columns)

end Eval

end Lookout.Script
