/-
The configuration of the watch.

Every setting has a default.  A configuration is valid if none of the settings that must not
be empty or zero is; the first that is names the fault.
-/
import Lookout.Json.Text
import Lookout.Text.Blank
import Lookout.Text.Duration

namespace Lookout

/-- The settings of the interpreter pool. -/
structure InterpreterConfig where
  poolSize : Nat
  /-- The file of the helper script. -/
  initScript : Option String
deriving DecidableEq, Repr

/-- The settings of the watch. -/
structure WatchConfig where
  /-- The alert file. -/
  alerts : String
  /-- The address of the search backend. -/
  searchAddr : String
  /-- Where chat messages go. -/
  webhookEndpoint : Option String
  cycleTimeoutSecs : Nat
  httpTimeoutSecs : Nat
  interpreter : InterpreterConfig
deriving DecidableEq, Repr

/-- What makes a configuration invalid. -/
inductive ConfigFault where
  | alertsEmpty
  | searchAddrBlank
  | cycleTimeoutZero
  | httpTimeoutZero
  | poolSizeZero
deriving DecidableEq, Repr

/-- A fault in words. -/
def ConfigFault.reason : ConfigFault → String
  | alertsEmpty => "alerts path cannot be empty"
  | searchAddrBlank => "search_addr cannot be empty"
  | cycleTimeoutZero => "cycle_timeout_secs must be greater than 0"
  | httpTimeoutZero => "http_timeout_secs must be greater than 0"
  | poolSizeZero => "interpreter.pool_size must be greater than 0"

/-- The settings of the interpreter pool that hold where none are given. -/
def InterpreterConfig.default : InterpreterConfig :=
  ⟨1, none⟩

namespace WatchConfig

/-- The settings that hold where none are given. -/
def default : WatchConfig where
  alerts := "alerts.yml"
  searchAddr := "127.0.0.1:9200"
  webhookEndpoint := none
  cycleTimeoutSecs := 30
  httpTimeoutSecs := 10
  interpreter := .default

/-- The first fault of a configuration. -/
def fault? (c : WatchConfig) : Option ConfigFault :=
  if c.alerts.isEmpty then some .alertsEmpty
  else if Text.isAllBlank c.searchAddr then some .searchAddrBlank
  else if c.cycleTimeoutSecs = 0 then some .cycleTimeoutZero
  else if c.httpTimeoutSecs = 0 then some .httpTimeoutZero
  else if c.interpreter.poolSize = 0 then some .poolSizeZero
  else none

/-- The configuration itself, if it is valid. -/
def validate (c : WatchConfig) : Except ConfigFault WatchConfig :=
  match c.fault? with
  | some fault => .error fault
  | none => .ok c

/-- The deadline of a cycle. -/
def cycleTimeout (c : WatchConfig) : Duration :=
  .ofSeconds c.cycleTimeoutSecs

/-- How long a request may take. -/
def httpTimeout (c : WatchConfig) : Duration :=
  .ofSeconds c.httpTimeoutSecs

/-! ### Text -/

/-- A text as JSON; `null` if there is none. -/
def optionalText (s : Option String) : List Char :=
  (s.map Json.quote).getD "null".toList

/-- A JSON object of names and JSON texts. -/
def objectText (fields : List (String × List Char)) : List Char :=
  '{' :: [','].intercalate (fields.map fun (name, text) => Json.quote name ++ ':' :: text) ++ ['}']

/-- The configuration as JSON text. -/
def jsonText (c : WatchConfig) : List Char :=
  objectText [
    ("alerts", Json.quote c.alerts),
    ("search_addr", Json.quote c.searchAddr),
    ("webhook_endpoint", optionalText c.webhookEndpoint),
    ("cycle_timeout_secs", digitsOf c.cycleTimeoutSecs),
    ("http_timeout_secs", digitsOf c.httpTimeoutSecs),
    ("interpreter", objectText [
      ("pool_size", digitsOf c.interpreter.poolSize),
      ("init_script", optionalText c.interpreter.initScript)])]

end WatchConfig

end Lookout
