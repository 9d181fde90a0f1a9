/-
Reading the data of a document as values, texts, numbers, lists and records.

Readers go through the data in its order, so the first fault is the one that is told.  Tags
are dropped; a scalar without any text can stand for an empty list or record.
-/
import Lookout.Yaml.Error
import Lookout.Value.Token

namespace Lookout.Yaml

/-- The token of a scalar. -/
def Scalar.toToken : Scalar → Token
  | null => .unit
  | bool b => .bool b
  | unsigned n => .word n
  | signed n => .word n
  | unsignedWide n => .unsignedWide n
  | signedWide n => .signedWide n
  | float x => .float x
  | text s => .string s

/-- A field of a record: its data, and the text of its key. -/
structure Field where
  label : Option String
  data : Data

namespace Field

/-- A field read in some way. -/
def read {α : Type} (f : Field) (read : Data → Except Error α) : Except Error α :=
  (read f.data).mapError (·.under (.entry f.label))

/-- A field that may come only once, read in some way. -/
def readOnce {α : Type} (f : Field) (name : String) (before : Option α)
    (read : Data → Except Error α) : Except Error (Option α) :=
  if before.isSome then .error (.here (.duplicateField name)) else (f.read read).map some

end Field

namespace Data

/-! ### Self-describing data -/

/-- The scalar of a text with a tag. -/
def readScalar (tag : Option String) (plain : Bool) (text : String) : Except Error Scalar :=
  (Scalar.read tag plain text).mapError fun wanted => .here (.wrongText text wanted)

/-- A token under a tag, if the tag is local to the document. -/
def underTag (tag : Option String) (t : Token) : Token :=
  if tag.any Scalar.isLocalTag then .tagged t else t

mutual

/-- The token of data. -/
def toToken : Data → Except Error Token
  | scalar tag plain text => do
    let s ← readScalar tag plain text
    .ok (underTag tag s.toToken)
  | sequence tag items => do
    let ts ← itemTokens 0 items
    .ok (underTag tag (.list ts))
  | mapping tag pairs => do
    let ps ← pairTokens pairs
    .ok (underTag tag (.map ps))
  | excess limit => .error (.here (.excess limit))

/-- The tokens of items, the first of which has the given number. -/
def itemTokens (index : Nat) : List Data → Except Error (List Token)
  | [] => .ok []
  | d :: ds => do
    let t ← (toToken d).mapError (·.under (.item index))
    let ts ← itemTokens (index + 1) ds
    .ok (t :: ts)

/-- The tokens of pairs. -/
def pairTokens : List (Option String × Data × Data) → Except Error (List (Token × Token))
  | [] => .ok []
  | (label, key, value) :: pairs => do
    let k ← toToken key
    let v ← (toToken value).mapError (·.under (.entry label))
    let ps ← pairTokens pairs
    .ok ((k, v) :: ps)

end

/-- The value of data.  No token of a document is a tag without data, so there always is
one. -/
def toValue (d : Data) : Except Error Value :=
  d.toToken.map fun t => (Value.ofToken? t).getD .null

/-! ### Data of a known type -/

/-- The error of data that is not of an expected type. -/
def refuse {α : Type} (expected : String) : Data → Except Error α
  | scalar tag plain text => do
    let s ← readScalar tag plain text
    .error (.here (.wrongType (.scalar s) expected))
  | sequence _ _ => .error (.here (.wrongType .sequence expected))
  | mapping _ _ => .error (.here (.wrongType .mapping expected))
  | excess limit => .error (.here (.excess limit))

/-- Data as text: any scalar, as it is written. -/
def toText (expected : String) : Data → Except Error String
  | scalar _ _ text => .ok text
  | d => d.refuse expected

/-- Data as a natural number of 64 bits. -/
def toNatural : Data → Except Error Nat
  | d@(scalar _ plain text) =>
    match (if plain then Scalar.unsigned? 0x10000000000000000 text.toList else none) with
    | some n => .ok n
    | none => d.refuse "u64"
  | d => d.refuse "u64"

/-- The items of a list, read one after the other. -/
def readItems {α : Type} (read : Data → Except Error α) (index : Nat) :
    List Data → Except Error (List α)
  | [] => .ok []
  | d :: ds => do
    let x ← (read d).mapError (·.under (.item index))
    let xs ← readItems read (index + 1) ds
    .ok (x :: xs)

/-- Data as a list. -/
def toList {α : Type} (read : Data → Except Error α) : Data → Except Error (List α)
  | sequence _ items => readItems read 0 items
  | d@(scalar _ plain text) => if plain && text.isEmpty then .ok [] else d.refuse "a sequence"
  | d => d.refuse "a sequence"

/-! ### Records -/

/-- The entries of a record entered one after the other, each by its name. -/
def enterFields {ρ : Type} (enter : ρ → String → Field → Except Error ρ) (r : ρ) :
    List (Option String × Data × Data) → Except Error ρ
  | [] => .ok r
  | (label, key, value) :: pairs => do
    let name ← key.toText "field identifier"
    let r ← enter r name ⟨label, value⟩
    enterFields enter r pairs

/-- Data as a record of a type, filled entry by entry. -/
def toRecord {ρ : Type} (type : String) (enter : ρ → String → Field → Except Error ρ) (r : ρ) :
    Data → Except Error ρ
  | mapping _ pairs => enterFields enter r pairs
  | d@(scalar _ plain text) =>
    if plain && text.isEmpty then .ok r else d.refuse ("struct " ++ type)
  | d => d.refuse ("struct " ++ type)

/-- A field that has to be there. -/
def required {α : Type} (name : String) : Option α → Except Error α
  | some x => .ok x
  | none => .error (.here (.missingField name))

end Data

/-- What a text holds, read in some way. -/
def readText {α : Type} (read : Data → Except Error α) (text : String) : Except Error α :=
  match Data.ofText? text with
  | some d => read d
  | none => .error .malformed

end Lookout.Yaml

namespace Lookout.Value

/-- The value that a document holds, decoded directly. -/
def ofYaml (text : String) : Except Yaml.Error Value :=
  Yaml.readText Yaml.Data.toValue text

end Lookout.Value
