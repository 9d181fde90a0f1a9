/-
The alerts of a file.
-/
import Lookout.Alert.Load

namespace Lookout

/-- Why there are no alerts from a file. -/
inductive AlertFileError where
  | unreadable (f : FileFailure)
  | invalid (e : LoadError)

namespace AlertFileError

/-- The kind of the error: a file that cannot be read is a matter of configuration. -/
def kind : AlertFileError → ErrorKind
  | unreadable _ => .config
  | invalid e => e.kind

/-- The reason in words. -/
def reason : AlertFileError → String
  | unreadable f => f.reason
  | invalid e => e.reason

end AlertFileError

/-- The alerts of the file at a path. -/
def loadAlertFile {m : Type → Type} [Monad m] (files : FileReader m) (path : String) :
    m (Except AlertFileError (List AlertDefinition)) := do
  match ← files.readFor .alerts path with
  | .error f => return .error (.unreadable f)
  | .ok text => return (loadAlerts text).mapError .invalid

end Lookout
