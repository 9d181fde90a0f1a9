/-
Alert files.

A file is a list of entries.  All of it is read first; then entry by entry the actions are
decoded, the alert is built, and its name is compared with those before it.  The first fault
ends the loading.
-/
import Lookout.Action.Decode
import Lookout.Alert.Basic
import Lookout.Files

namespace Lookout

/-- An alert as a file writes it. -/
structure RawAlert where
  name : String
  intervalSecs : Nat
  search : QuerySpec
  condition : String
  actions : List Value

/-- Why the text of an alert file cannot be loaded. -/
inductive LoadError where
  /-- The file does not have the form of a list of alerts. -/
  | form (e : Yaml.Error)
  | badAction (name : String) (index : Nat) (e : ActionDecodeError)
  | invalid (e : BuildError)
  | duplicateName (name : String)

namespace LoadError

/-- The kind of the error. -/
def kind : LoadError → ErrorKind
  | form _ => .serialization
  | _ => .decode

/-- The reason in words. -/
def reason : LoadError → String
  | form e => e.message
  | badAction name index e =>
    "alert " ++ quoted name ++ ": action " ++ toString index ++ ": "
      ++ ErrorKind.decode.message e.reason
  | invalid e => e.reason
  | duplicateName name => "duplicate alert name: " ++ quoted name

end LoadError

namespace RawAlert

/-- The fields of an alert that came so far. -/
structure Draft where
  name : Option String
  intervalSecs : Option Nat
  search : Option QuerySpec
  condition : Option String
  actions : Option (List Value)

/-- A draft with one more field; fields of other names are passed over. -/
def Draft.enter (d : Draft) (name : String) (f : Yaml.Field) : Except Yaml.Error Draft :=
  match name with
  | "name" => do
    let text ← f.readOnce name d.name (·.toText "a string")
    .ok { d with name := text }
  | "interval_secs" => do
    let secs ← f.readOnce name d.intervalSecs (·.toNatural)
    .ok { d with intervalSecs := secs }
  | "search" => do
    let search ← f.readOnce name d.search QuerySpec.ofData
    .ok { d with search := search }
  | "condition" => do
    let text ← f.readOnce name d.condition (·.toText "a string")
    .ok { d with condition := text }
  | "actions" => do
    let actions ← f.readOnce name d.actions (·.toList (·.toValue))
    .ok { d with actions := actions }
  | _ => .ok d

/-- The alert that data describes. -/
def ofData (d : Yaml.Data) : Except Yaml.Error RawAlert := do
  let draft ← d.toRecord "RawAlert" Draft.enter ⟨none, none, none, none, none⟩
  let name ← Yaml.Data.required "name" draft.name
  let search ← Yaml.Data.required "search" draft.search
  let condition ← Yaml.Data.required "condition" draft.condition
  .ok ⟨name, draft.intervalSecs.getD AlertDefinition.defaultIntervalSecs, search, condition,
    draft.actions.getD []⟩

/-- The alerts that the text of a file describes. -/
def ofText (text : String) : Except Yaml.Error (List RawAlert) :=
  Yaml.readText (·.toList ofData) text

/-- The actions of an alert, the first of which has the given number. -/
def decodeActions (name : String) (index : Nat) : List Value → Except LoadError (List Action)
  | [] => .ok []
  | v :: vs => do
    let a ← (Action.decode v).mapError (.badAction name index)
    let as ← decodeActions name (index + 1) vs
    .ok (a :: as)

/-- The alert in its final form. -/
def toDefinition (r : RawAlert) : Except LoadError AlertDefinition := do
  let actions ← decodeActions r.name 0 r.actions
  (AlertDefinition.build ⟨r.name, r.intervalSecs, r.search, r.condition, actions⟩).mapError
    .invalid

end RawAlert

/-- The alerts of entries, none of which may have one of the given names or the name of another
entry. -/
def buildAlerts (seen : List String) : List RawAlert → Except LoadError (List AlertDefinition)
  | [] => .ok []
  | r :: rs => do
    let a ← r.toDefinition
    if seen.contains a.name then .error (.duplicateName a.name)
    else do
      let as ← buildAlerts (a.name :: seen) rs
      .ok (a :: as)

/-- The alerts of the text of a file. -/
def loadAlerts (text : String) : Except LoadError (List AlertDefinition) := do
  let raw ← (RawAlert.ofText text).mapError .form
  buildAlerts [] raw

/-- The first alert of a name. -/
def findAlert? (alerts : List AlertDefinition) (name : String) : Option AlertDefinition :=
  alerts.find? fun a => a.name = name

end Lookout
