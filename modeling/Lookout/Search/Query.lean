/-
The query of an alert: an index, or a pattern of indices, and a body that is sent as it is.
-/
import Lookout.Yaml.Decode

namespace Lookout

/-- A query. -/
structure QuerySpec where
  index : String
  body : Value

namespace QuerySpec

/-- Equality part by part. -/
def beq (a b : QuerySpec) : Bool :=
  a.index == b.index && a.body == b.body

instance : BEq QuerySpec := ⟨beq⟩

/-- The body of a query that does not give one. -/
def defaultBody : Value := .map []

/-- The query as JSON text, the index first. -/
def jsonText (q : QuerySpec) : List Char :=
  "\x7b\"index\":".toList ++ Json.quote q.index ++ ",\"body\":".toList ++ q.body.jsonText ++ ['}']

/-- The fields of a query that came so far. -/
structure Draft where
  index : Option String
  body : Option Value

/-- A draft with one more field; fields of other names are passed over. -/
def Draft.enter (d : Draft) (name : String) (f : Yaml.Field) : Except Yaml.Error Draft :=
  match name with
  | "index" => do
    let index ← f.readOnce name d.index (·.toText "a string")
    .ok { d with index := index }
  | "body" => do
    let body ← f.readOnce name d.body (·.toValue)
    .ok { d with body := body }
  | _ => .ok d

/-- The query that data describes. -/
def ofData (d : Yaml.Data) : Except Yaml.Error QuerySpec := do
  let draft ← d.toRecord "QuerySpec" Draft.enter ⟨none, none⟩
  let index ← Yaml.Data.required "index" draft.index
  .ok ⟨index, draft.body.getD defaultBody⟩

end QuerySpec

end Lookout
