/-
Command lines.

A command line names a command, and gives settings as options, before the command or after it.
A setting that is not given on one of the two sides is looked up there in the environment.
What is given beats what the environment says, and what is given after the command beats what
is given before it.  Every value is checked where it is found, also one that is beaten later.
-/
import Lookout.Config.Load
import Lookout.Value.Pointer

namespace Lookout

/-- The settings that a command line can give. -/
inductive Setting where
  | config | alerts | searchAddr | webhookEndpoint | scriptInit | scriptSlots | logLevel
deriving DecidableEq, Repr

namespace Setting

/-- All settings. -/
def all : List Setting :=
  [config, alerts, searchAddr, webhookEndpoint, scriptInit, scriptSlots, logLevel]

/-- The name of the option that gives a setting. -/
def option : Setting → String
  | config => "config"
  | alerts => "alerts"
  | searchAddr => "search-addr"
  | webhookEndpoint => "webhook-endpoint"
  | scriptInit => "script-init"
  | scriptSlots => "script-slots"
  | logLevel => "log-level"

/-- The letter of the option that gives a setting, if it has one. -/
def letter? : Setting → Option Char
  | config => some 'c'
  | _ => none

/-- The variable of the environment that a setting is looked up in. -/
def variableName : Setting → String
  | config => "CLAW_WATCH_CONFIG"
  | alerts => "CLAW_WATCH_ALERTS"
  | searchAddr => "CLAW_WATCH_SEARCH_ADDR"
  | webhookEndpoint => "CLAW_WATCH_WEBHOOK_ENDPOINT"
  | scriptInit => "CLAW_WATCH_SCRIPT_INIT"
  | scriptSlots => "CLAW_WATCH_SCRIPT_SLOTS"
  | logLevel => "CLAW_WATCH_LOG_LEVEL"

/-- What a setting is. -/
def meaning : Setting → String
  | config => "Path to the TOML config file"
  | alerts => "Path to the YAML alert file"
  | searchAddr => "Search backend address"
  | webhookEndpoint => "Chat webhook URL for slack actions"
  | scriptInit => "Starlark file run once in every interpreter"
  | scriptSlots => "Number of interpreters"
  | logLevel => "Default log level"

/-- Whether a text can be the value of a setting: a path must not be empty, and a number of slots
must fit in 64 bits. -/
def accepts (s : Setting) (value : String) : Bool :=
  match s with
  | config | alerts | scriptInit => !value.isEmpty
  | scriptSlots => (unsigned64? value.toList).isSome
  | searchAddr | webhookEndpoint | logLevel => true

end Setting

/-- What the watch can be told to do. -/
inductive Command where
  /-- Run every alert until interrupted. -/
  | run
  /-- Look whether the alert file is valid, and print a summary. -/
  | check
  /-- Run one cycle of an alert now. -/
  | forceRun (name : String)
deriving DecidableEq, Repr

/-- Why a command line has no meaning. -/
inductive UsageError where
  | noCommand
  | unknownCommand (word : String)
  | unknownOption (word : String)
  | unexpected (word : String)
  | noAlertName
  | noValue (s : Setting)
  | repeated (s : Setting)
  | badValue (s : Setting) (value : String)
deriving DecidableEq, Repr

/-- A usage error in words. -/
def UsageError.message : UsageError → String
  | noCommand => "a command is required"
  | unknownCommand word => "unrecognized command '" ++ word ++ "'"
  | unknownOption word => "unexpected argument '" ++ word ++ "' found"
  | unexpected word => "unexpected argument '" ++ word ++ "' found"
  | noAlertName => "the name of an alert is required"
  | noValue s => "a value is required for '--" ++ s.option ++ "'"
  | repeated s => "the argument '--" ++ s.option ++ "' cannot be used multiple times"
  | badValue s value => "invalid value '" ++ value ++ "' for '--" ++ s.option ++ "'"

/-- Settings and their values, the last one first. -/
abbrev Settings : Type := List (Setting × String)

namespace Settings

/-- The value of a setting. -/
def get? (given : Settings) (s : Setting) : Option String :=
  given.lookup s

/-- The settings with one more, which must not have been given yet. -/
def add (given : Settings) (s : Setting) (value : String) : Except UsageError Settings :=
  if (given.get? s).isSome then .error (.repeated s)
  else if s.accepts value then .ok ((s, value) :: given)
  else .error (.badValue s value)

/-- The value of a setting that was given before and after a command, or not.  The environment
is looked into unless it was given on both sides. -/
def settle (environment : String → Option String) (before after : Settings) (s : Setting) :
    Except UsageError (Option String) :=
  match before.get? s, after.get? s with
  | some _, some later => .ok (some later)
  | earlier?, later? =>
    let given := later?.or earlier?
    match environment s.variableName with
    | none => .ok given
    | some value =>
      if s.accepts value then .ok (some (given.getD value)) else .error (.badValue s value)

/-- The values of settings that were given before and after a command, or not. -/
def merge (environment : String → Option String) (before after : Settings) :
    List Setting → Except UsageError Settings
  | [] => .ok []
  | s :: ss => do
    let value ← settle environment before after s
    let rest ← merge environment before after ss
    .ok ((value.map fun v => (s, v)).toList ++ rest)

/-- The overrides that settings amount to. -/
def overrides (given : Settings) : Overrides where
  config := given.get? .config
  alerts := given.get? .alerts
  searchAddr := given.get? .searchAddr
  webhookEndpoint := given.get? .webhookEndpoint
  scriptInit := given.get? .scriptInit
  scriptSlots := (given.get? .scriptSlots).bind fun value => unsigned64? value.toList

end Settings

/-! ### Words -/

/-- What a word of a command line is. -/
inductive Word where
  | plain (word : String)
  /-- The option of a setting, with a value if one is attached. -/
  | option (s : Setting) (value : Option String)
  | help
  | version
  /-- The words behind it are no options. -/
  | endOfOptions
  | unknown (word : String)
deriving DecidableEq, Repr

namespace Word

/-- A name and what is attached to it with an equals sign. -/
def splitValue (cs : List Char) : String × Option String :=
  match cs.dropWhile (· ≠ '=') with
  | [] => (String.ofList cs, none)
  | _ :: value => (String.ofList (cs.takeWhile (· ≠ '=')), some (String.ofList value))

/-- A word behind two hyphens. -/
def ofLong (word : String) (cs : List Char) : Word :=
  let (name, value) := splitValue cs
  match Setting.all.find? (·.option = name) with
  | some s => option s value
  | none =>
    if name = "help" && value.isNone then help
    else if name = "version" && value.isNone then version
    else unknown word

/-- The value attached to a letter, with or without an equals sign. -/
def attached (cs : List Char) : Option String :=
  match cs with
  | [] => none
  | '=' :: value => some (String.ofList value)
  | value => some (String.ofList value)

/-- A word behind one hyphen. -/
def ofShort (word : String) (letter : Char) (rest : List Char) : Word :=
  match Setting.all.find? (·.letter? = some letter) with
  | some s => option s (attached rest)
  | none =>
    if letter = 'h' then help
    else if letter = 'V' then version
    else unknown word

/-- The word that a text is. -/
def ofText (word : String) : Word :=
  match word.toList with
  | ['-', '-'] => endOfOptions
  | '-' :: '-' :: cs => ofLong word cs
  | '-' :: c :: cs => ofShort word c cs
  | _ => plain word

end Word

/-! ### Command lines -/

/-- A command, and what was set for it. -/
structure Invocation where
  command : Command
  overrides : Overrides
  logLevel : String
deriving DecidableEq, Repr

/-- What a command line asks for. -/
inductive CommandLine where
  | help
  | version
  | invoke (i : Invocation)
deriving DecidableEq, Repr

namespace CommandLine

/-- What the words behind the name of a command amount to. -/
inductive Tail where
  | help
  | given (settings : Settings) (arguments : List String)

/-- The words behind the name of a command.  The version is only told without a command. -/
def readTail (settings : Settings) (arguments : List String) :
    List String → Except UsageError Tail
  | [] => .ok (.given settings arguments.reverse)
  | word :: words =>
    match Word.ofText word with
    | .plain text => readTail settings (text :: arguments) words
    | .option s (some value) => do
      let settings ← settings.add s value
      readTail settings arguments words
    | .option s none =>
      match words with
      | [] => .error (.noValue s)
      | value :: rest =>
        match Word.ofText value with
        | .plain text => do
          let settings ← settings.add s text
          readTail settings arguments rest
        | _ => .error (.noValue s)
    | .help => .ok .help
    | .endOfOptions => .ok (.given settings (arguments.reverse ++ words))
    | .version | .unknown _ => .error (.unknownOption word)

/-- The command of a name, and its arguments. -/
def command? (name : String) (arguments : List String) : Except UsageError Command :=
  match name, arguments with
  | "run", [] => .ok .run
  | "check", [] => .ok .check
  | "force-run", [alert] => .ok (.forceRun alert)
  | "force-run", [] => .error .noAlertName
  | "force-run", _ :: word :: _ => .error (.unexpected word)
  | _, word :: _ => .error (.unexpected word)
  | _, [] => .error (.unknownCommand name)

/-- The names of the commands. -/
def commandNames : List String :=
  ["run", "check", "force-run", "help"]

/-- One option in a line of the usage. -/
def optionLine (s : Setting) : String :=
  let letter := s.letter?.elim "    " fun c => "-" ++ c.toString ++ ", "
  "  " ++ letter ++ "--" ++ s.option ++ " <VALUE>  " ++ s.meaning ++ " [env: " ++ s.variableName ++ "]"

/-- How command lines look, line by line. -/
def usage : List String :=
  ["Scripted search alerting",
    "",
    "Usage: claw-watch [OPTIONS] <COMMAND>",
    "",
    "Commands:",
    "  run               Run every alert until interrupted",
    "  check             Validate the alert file and print a summary",
    "  force-run <NAME>  Run one cycle of an alert now",
    "",
    "Options:"] ++ Setting.all.map optionLine ++
  ["  -h, --help  Print help", "  -V, --version  Print version"]

/-- What is asked for by the name of a command and the words behind it. -/
def readCommand (environment : String → Option String) (before : Settings) (name : String)
    (words : List String) : Except UsageError CommandLine := do
  match ← readTail [] [] words with
  | .help => .ok .help
  | .given after arguments =>
    let command ← command? name arguments
    let settings ← Settings.merge environment before after Setting.all
    .ok (.invoke ⟨command, settings.overrides, (settings.get? .logLevel).getD "info"⟩)

/-- What is asked for by a question for help on some commands. -/
def readHelp (words : List String) : Except UsageError CommandLine :=
  match words.dropWhile (· = "help") with
  | [] => .ok .help
  | word :: more =>
    if !commandNames.contains word then .error (.unknownCommand word)
    else match more with
      | [] => .ok .help
      | extra :: _ => .error (.unknownCommand extra)

/-- What is asked for by words, with the settings that came before them. -/
def read (environment : String → Option String) (before : Settings) :
    List String → Except UsageError CommandLine
  | [] => .error .noCommand
  | word :: words =>
    match Word.ofText word with
    | .plain "help" => readHelp words
    | .plain name =>
      if commandNames.contains name then readCommand environment before name words
      else .error (.unknownCommand name)
    | .option s (some value) => do
      let before ← before.add s value
      read environment before words
    | .option s none =>
      match words with
      | [] => .error (.noValue s)
      | value :: rest =>
        match Word.ofText value with
        | .plain text => do
          let before ← before.add s text
          read environment before rest
        | _ => .error (.noValue s)
    | .help => .ok .help
    | .version => .ok .version
    | .endOfOptions => .error (words.head?.elim .noCommand .unexpected)
    | .unknown _ => .error (.unknownOption word)

/-- What a command line asks for, in an environment of variables. -/
def parse (environment : String → Option String) (words : List String) :
    Except UsageError CommandLine :=
  read environment [] words

end CommandLine

end Lookout
