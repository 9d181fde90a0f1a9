/-
Configurations read from settings documents.

Settings are taken in the order of the document, so the first one of a wrong type is told.
Settings of other names are passed over.  The settings of the pool may also be a list, which
gives them by their position.
-/
import Lookout.Config.Basic
import Lookout.Text.Quoted
import Lookout.Toml.Reader

namespace Lookout

/-- What is wrong with the text of a configuration. -/
inductive SettingFault where
  /-- It is not a settings document. -/
  | malformed
  | wrongType (found : Toml.Item) (expected : String)
  | negative (n : Int) (expected : String)

/-- What a key stands for, where something else was expected. -/
def Toml.Item.described : Toml.Item → String
  | string s => "string " ++ quoted s
  | integer n => "integer `" ++ String.ofList (integerText n) ++ "`"
  | float x => "floating point `" ++ String.ofList (documentFloatText x) ++ "`"
  | bool b => "boolean `" ++ (if b then "true" else "false") ++ "`"
  | date => "map"
  | array _ => "sequence"
  | table _ _ => "map"
  | tables _ => "sequence"

/-- A fault in words. -/
def SettingFault.reason : SettingFault → String
  | malformed => "(syntax)"
  | wrongType found expected => "invalid type: " ++ found.described ++ ", expected " ++ expected
  | negative n expected =>
    "invalid value: integer `" ++ String.ofList (integerText n) ++ "`, expected " ++ expected

namespace Setting

open Toml (Item)

/-- A setting that is text. -/
def text (expected : String) : Item → Except SettingFault String
  | .string s => .ok s
  | item => .error (.wrongType item expected)

/-- A setting that is a natural number. -/
def natural (expected : String) : Item → Except SettingFault Nat
  | .integer n => if n < 0 then .error (.negative n expected) else .ok n.toNat
  | item => .error (.wrongType item expected)

end Setting

namespace InterpreterConfig

open Toml (Item)

/-- The settings with one more entry. -/
def enter (c : InterpreterConfig) (entry : String × Item) : Except SettingFault InterpreterConfig :=
  match entry.1 with
  | "pool_size" => do
    let n ← Setting.natural "usize" entry.2
    .ok { c with poolSize := n }
  | "init_script" => do
    let path ← Setting.text "path string" entry.2
    .ok { c with initScript := some path }
  | _ => .ok c

/-- The names of the settings in a list. -/
def positions : List String := ["pool_size", "init_script"]

/-- The settings of the pool that an item describes.  A date has no settings in it. -/
def ofItem : Item → Except SettingFault InterpreterConfig
  | .table _ entries => entries.foldlM enter default
  | .date => .ok default
  | .array items => (positions.zip items).foldlM enter default
  | .tables rows => (positions.zip (rows.map fun es => Item.table .header es)).foldlM enter default
  | item => .error (.wrongType item "struct InterpreterConfig")

end InterpreterConfig

namespace WatchConfig

open Toml (Item)

/-- The settings with one more entry. -/
def enter (c : WatchConfig) (entry : String × Item) : Except SettingFault WatchConfig :=
  match entry.1 with
  | "alerts" => do
    let path ← Setting.text "path string" entry.2
    .ok { c with alerts := path }
  | "search_addr" => do
    let address ← Setting.text "a string" entry.2
    .ok { c with searchAddr := address }
  | "webhook_endpoint" => do
    let endpoint ← Setting.text "a string" entry.2
    .ok { c with webhookEndpoint := some endpoint }
  | "cycle_timeout_secs" => do
    let n ← Setting.natural "u64" entry.2
    .ok { c with cycleTimeoutSecs := n }
  | "http_timeout_secs" => do
    let n ← Setting.natural "u64" entry.2
    .ok { c with httpTimeoutSecs := n }
  | "interpreter" => do
    let i ← InterpreterConfig.ofItem entry.2
    .ok { c with interpreter := i }
  | _ => .ok c

/-- The settings that a text gives, whether valid or not. -/
def decode (text : String) : Except SettingFault WatchConfig :=
  match Toml.parse? text with
  | none => .error .malformed
  | some entries => entries.foldlM enter default

end WatchConfig

end Lookout
