/-
Configurations from files and from the command line.

A file gives settings, which must be valid on their own.  Then the settings of the command line
replace those of the file, and what comes of it must be valid again.
-/
import Lookout.Config.Decode
import Lookout.Files

namespace Lookout

/-- Why there is no configuration, or why it cannot be put to work. -/
inductive ConfigError where
  | unreadable (f : FileFailure)
  | malformed (f : SettingFault)
  | invalid (f : ConfigFault)
  /-- Nothing is left of the search address. -/
  | noSearchAddress
  /-- The system cannot make a client for requests. -/
  | noClient (reason : String)

/-- The reason in words. -/
def ConfigError.reason : ConfigError → String
  | unreadable f => f.reason
  | malformed f => "invalid TOML: " ++ f.reason
  | invalid f => f.reason
  | noSearchAddress => "search address cannot be empty"
  | noClient reason => "failed to build http client: " ++ reason

/-- The settings of a command line. -/
structure Overrides where
  /-- The configuration file. -/
  config : Option String
  alerts : Option String
  searchAddr : Option String
  webhookEndpoint : Option String
  scriptInit : Option String
  scriptSlots : Option Nat
deriving DecidableEq, Repr

/-- No settings at all. -/
def Overrides.none : Overrides :=
  ⟨.none, .none, .none, .none, .none, .none⟩

namespace WatchConfig

/-- The valid configuration of a text. -/
def ofText (text : String) : Except ConfigError WatchConfig := do
  let c ← (decode text).mapError .malformed
  c.validate.mapError .invalid

/-- The configuration with the settings of a command line. -/
def override (o : Overrides) (c : WatchConfig) : WatchConfig where
  alerts := o.alerts.getD c.alerts
  searchAddr := o.searchAddr.getD c.searchAddr
  webhookEndpoint := o.webhookEndpoint.orElse fun _ => c.webhookEndpoint
  cycleTimeoutSecs := c.cycleTimeoutSecs
  httpTimeoutSecs := c.httpTimeoutSecs
  interpreter :=
    { poolSize := o.scriptSlots.getD c.interpreter.poolSize
      initScript := o.scriptInit.orElse fun _ => c.interpreter.initScript }

/-- The configuration of a file. -/
def ofFile {m : Type → Type} [Monad m] (files : FileReader m) (path : String) :
    m (Except ConfigError WatchConfig) := do
  match ← files.readFor .config path with
  | .error f => return .error (.unreadable f)
  | .ok text => return ofText text

/-- The configuration of a command line. -/
def load {m : Type → Type} [Monad m] (files : FileReader m) (o : Overrides) :
    m (Except ConfigError WatchConfig) := do
  let base ← match o.config with
    | some path => ofFile files path
    | none => pure (.ok default)
  return base.bind fun c => (c.override o).validate.mapError .invalid

/-- The helper script of a configuration. -/
def readHelpers {m : Type → Type} [Monad m] (files : FileReader m) (c : WatchConfig) :
    m (Except ConfigError (Option String)) := do
  match c.interpreter.initScript with
  | none => return .ok none
  | some path => return ((← files.readFor .helpers path).mapError .unreadable).map some

end WatchConfig

end Lookout
