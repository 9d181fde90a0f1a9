/-
Actions read from values.

A definition is a map.  Its `type`, in any letter case, says which kind of action it is; the
fields of that kind are then taken by name, in the order of their names, and all others are
left aside.  An absent field has a default, except the address of a request.
-/
import Lookout.Action.Basic
import Lookout.Http.Token
import Lookout.Json.Text
import Lookout.Text.Casing

namespace Lookout

/-- The name of a value where something else was expected. -/
def Value.described : Value → String
  | .null => "null"
  | .bool b => "boolean `" ++ (if b then "true" else "false") ++ "`"
  | .number (.int n _) => "integer `" ++ String.ofList (integerText n) ++ "`"
  | .number (.float x _) => "floating point `" ++ String.ofList (jsonFloat.text x) ++ "`"
  | .string s => "string " ++ quoted s
  | .list _ => "sequence"
  | .map _ => "map"

/-- What is wrong with the fields of an action. -/
inductive FieldFault where
  | missing (field : String)
  | notString (found : Value)
  | notMap (found : Value)

/-- A fault in words. -/
def FieldFault.reason : FieldFault → String
  | missing field => "missing field `" ++ field ++ "`"
  | notString found => "invalid type: " ++ found.described ++ ", expected a string"
  | notMap found => "invalid type: " ++ found.described ++ ", expected a map"

/-- Why a value is not an action. -/
inductive ActionDecodeError where
  | notMap (found : ValueKind)
  | typeMissing
  | typeNotString (found : Value)
  | unknownType (type : String)
  | invalidFields (kind : ActionKind) (fault : FieldFault)
  | invalidMethod (method : String)

/-- The reason in words. -/
def ActionDecodeError.reason : ActionDecodeError → String
  | notMap found => "action definition is not an object (got " ++ found.name ++ ")"
  | typeMissing => "action type is missing"
  | typeNotString found =>
    "action type must be a string, got " ++ found.kind.name ++ " " ++ found.display
  | unknownType type => "unknown action type: " ++ quoted type
  | invalidFields kind fault => "invalid " ++ kind.name ++ " action: " ++ fault.reason
  | invalidMethod method => "invalid http method: " ++ quoted method

namespace Action

/-! ### Fields -/

/-- A field that holds text. -/
def textField : Value → Except FieldFault String
  | .string s => .ok s
  | v => .error (.notString v)

/-- A text field of a map, if it is there. -/
def textField? (name : String) (entries : Entries Value) : Except FieldFault (Option String) :=
  match entries.find? name with
  | none => .ok none
  | some v => (textField v).map some

/-- The headers of a request, in the order of their names. -/
def headerEntries : List (String × Value) → Except FieldFault (List (String × String))
  | [] => .ok []
  | (name, v) :: rest => do
    let text ← textField v
    let others ← headerEntries rest
    .ok ((name, text) :: others)

/-- The headers field: a map of texts. -/
def headersField : Value → Except FieldFault (List (String × String))
  | .map entries => headerEntries entries
  | v => .error (.notMap v)

/-- The headers of a map; none if the field is absent. -/
def headersOf (entries : Entries Value) : Except FieldFault (List (String × String)) :=
  match entries.find? "headers" with
  | none => .ok []
  | some v => headersField v

/-- The log action of a map. -/
def decodeLog (entries : Entries Value) : Except FieldFault Action := do
  let message ← textField? "message" entries
  .ok (.log (message.getD ""))

/-- The chat action of a map. -/
def decodeSlack (entries : Entries Value) : Except FieldFault Action := do
  let text ← textField? "text" entries
  .ok (.slack (text.getD ""))

/-- The request of a map, its method as written.  Faults are told in the order of the field
names, a missing address last. -/
def decodeRequest (entries : Entries Value) : Except FieldFault HttpAction := do
  let body ← textField? "body" entries
  let headers ← headersOf entries
  let method ← textField? "method" entries
  let url ← textField? "url" entries
  match url with
  | none => .error (.missing "url")
  | some url => .ok ⟨method.getD "GET", url, headers, body.getD ""⟩

/-- A method in upper case, if that is a token. -/
def normalizeMethod (method : String) : Except ActionDecodeError String :=
  let upper := Text.toUpper method
  if isToken upper then .ok upper else .error (.invalidMethod method)

/-! ### Decoding -/

/-- The action of a kind that a map describes. -/
def decodeKind (kind : ActionKind) (entries : Entries Value) : Except ActionDecodeError Action :=
  match kind with
  | .log => (decodeLog entries).mapError (.invalidFields .log)
  | .slack => (decodeSlack entries).mapError (.invalidFields .slack)
  | .http => do
    let request ← (decodeRequest entries).mapError (.invalidFields .http)
    let method ← normalizeMethod request.method
    .ok (.http { request with method := method })

/-- The action that a value describes. -/
def decode : Value → Except ActionDecodeError Action
  | .map entries =>
    match Entries.find? "type" entries with
    | none => .error .typeMissing
    | some (.string type) =>
      let type := Text.toLower type
      match ActionKind.ofName? type with
      | some kind => decodeKind kind entries
      | none => .error (.unknownType type)
    | some v => .error (.typeNotString v)
  | v => .error (.notMap v.kind)

end Action

end Lookout
