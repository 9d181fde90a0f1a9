/-
Everything that can go wrong with the watch, by the stage where it does.

Each stage has causes of its own; the kind of an error and its reason are those of its cause.
-/
import Lookout.Alert.File
import Lookout.Config.Load
import Lookout.Cycle.Basic
import Lookout.Pool.Session

namespace Lookout

/-- The kind of an error at the start of a pool: no slots at all is a matter of configuration. -/
def PoolError.kind : PoolError → ErrorKind
  | noSlots => .config
  | helpers _ _ => .poolInit

/-- An error of the watch. -/
inductive WatchError where
  | config (e : ConfigError)
  | alerts (e : AlertFileError)
  | pool (e : PoolError)
  | cycle (e : CycleError)
  | actions (failures : List ActionFailure)

namespace WatchError

/-- The kind of the error. -/
def kind : WatchError → ErrorKind
  | config _ => .config
  | alerts e => e.kind
  | pool e => e.kind
  | cycle e => e.kind
  | actions _ => .actions

/-- The reason in words. -/
def reason : WatchError → String
  | config e => e.reason
  | alerts e => e.reason
  | pool e => e.reason
  | cycle e => e.reason
  | actions failures => ActionFailure.summary failures

/-- The message of the error. -/
def message (e : WatchError) : String :=
  e.kind.message e.reason

end WatchError

end Lookout
