/-
What the commands do.

A command reads what it needs, in a fixed order, and stops at the first error: the alerts come
first, then the name that was asked for, the search backend, the helper script, the pool, the
dispatcher.  What it prints stands beside its result, so that a command can print and fail; and so
does the pool that it built, if it came that far.
-/
import Lookout.Command.Line
import Lookout.Error.Watch
import Lookout.Schedule.Alerts

namespace Lookout

/-- What the watch makes requests for. -/
inductive ClientUse where
  | queries
  | actions
deriving DecidableEq, Repr

/-- What the watch finds around it. -/
structure Surroundings (m : Type → Type) where
  files : FileReader m
  network : Network
  /-- The time, in seconds since 1970. -/
  now : Nat
  /-- How many statements a condition may run before its deadline passes. -/
  patience : Option Nat
  /-- Why the system cannot make a client for requests, if it cannot. -/
  clientFault : ClientUse → Option String := fun _ => none

/-- Why a command failed. -/
inductive CommandError where
  | watch (e : WatchError)
  | unknownAlert (name path : String)
  | poolNotStarted (e : PoolError)

namespace CommandError

/-- The message of the error. -/
def message : CommandError → String
  | watch e => e.message
  | unknownAlert name path => "no alert named " ++ quoted name ++ " in " ++ path
  | poolNotStarted _ => "starting interpreter pool"

/-- The message of what caused the error, if it has a cause of its own. -/
def cause? : CommandError → Option String
  | poolNotStarted e => some (WatchError.pool e).message
  | _ => none

/-- The error as a report. -/
def text (e : CommandError) : String :=
  let cause := e.cause?.map fun cause => "\n\nCaused by:\n    " ++ cause
  "Error: " ++ e.message ++ cause.getD ""

end CommandError

/-- What a command did. -/
structure CommandRun where
  /-- The lines that it printed. -/
  output : List String
  result : Except CommandError Unit
  requests : List HttpRequest
  logs : List LogRecord
  /-- The pool that it built, as it was then. -/
  pool : Option Pool

/-- Why a command could not get ready, and the pool that it had built by then. -/
structure Setback where
  error : CommandError
  pool : Option Pool

namespace CommandRun

/-- A command that failed before it did anything but get ready. -/
def failed (s : Setback) : CommandRun :=
  ⟨[], .error s.error, [], [], s.pool⟩

/-- The exit status: zero if the command succeeded, one if it failed. -/
def exitStatus (r : CommandRun) : Nat :=
  match r.result with
  | .ok _ => 0
  | .error _ => 1

/-- The text that it printed. -/
def outputText (r : CommandRun) : String :=
  String.join (r.output.map (· ++ "\n"))

end CommandRun

/-- The exit status of a command line without a meaning. -/
def usageStatus : Nat := 2

/-- What is told for the version. -/
def versionLine : String := "claw-watch 0.1.0"

/-! ### Checking the alert file -/

/-- A text with spaces behind it, up to a width. -/
def padEnd (width : Nat) (s : String) : String :=
  s ++ String.ofList (List.replicate (width - s.length) ' ')

/-- A text with spaces before it, up to a width. -/
def padStart (width : Nat) (s : String) : String :=
  String.ofList (List.replicate (width - s.length) ' ') ++ s

/-- An alert in one line. -/
def AlertDefinition.summary (a : AlertDefinition) : String :=
  "  " ++ padEnd 24 a.name ++ " every " ++ padStart 5 (toString a.intervalSecs) ++ "s  index="
    ++ a.search.index ++ "  actions=[" ++ ", ".intercalate (a.actions.map (·.display)) ++ "]"

namespace WatchConfig

variable {m : Type → Type} [Monad m]

/-- The alerts of a configuration. -/
def readAlerts (w : Surroundings m) (c : WatchConfig) :
    m (Except CommandError (List AlertDefinition)) :=
  return (← loadAlertFile w.files c.alerts).mapError fun e => .watch (.alerts e)

/-- Looks whether the alert file is valid. -/
def check (w : Surroundings m) (c : WatchConfig) : m CommandRun := do
  match ← c.readAlerts w with
  | .error e => return .failed ⟨e, none⟩
  | .ok alerts =>
    let head := c.alerts ++ ": " ++ toString alerts.length ++ " alert(s)"
    return ⟨head :: alerts.map (·.summary), .ok (), [], [], none⟩

/-! ### Running alerts -/

/-- The client for queries of a configuration. -/
def searchClient (w : Surroundings m) (c : WatchConfig) : Except ConfigError SearchClient :=
  match SearchClient.new? c.searchAddr c.httpTimeout, w.clientFault .queries with
  | none, _ => .error .noSearchAddress
  | some _, some reason => .error (.noClient reason)
  | some client, none => .ok client

/-- The dispatcher of a configuration. -/
def dispatcher (w : Surroundings m) (c : WatchConfig) : Except ConfigError Dispatcher :=
  match w.clientFault .actions with
  | some reason => .error (.noClient reason)
  | none => .ok (.new c.webhookEndpoint c.httpTimeout)

/-- The runner of a search client and a helper script. -/
def assemble (w : Surroundings m) (c : WatchConfig) (client : SearchClient)
    (helpers : Option String) : Except Setback CycleRunner :=
  match Pool.create c.interpreter.poolSize helpers with
  | .error e => .error ⟨.poolNotStarted e, none⟩
  | .ok pool =>
    match c.dispatcher w with
    | .error e => .error ⟨.watch (.config e), some pool⟩
    | .ok dispatcher => .ok {
        search := client.run w.network
        pool
        dispatcher
        timeout := c.cycleTimeout
        patience := w.patience }

/-- The runner of a configuration. -/
def buildRunner (w : Surroundings m) (c : WatchConfig) : m (Except Setback CycleRunner) := do
  match c.searchClient w with
  | .error e => return .error ⟨.watch (.config e), none⟩
  | .ok client =>
    match ← c.readHelpers w.files with
    | .error e => return .error ⟨.watch (.config e), none⟩
    | .ok helpers => return c.assemble w client helpers

/-- What came of one action, in one line. -/
def outcomeLine (o : ActionOutcome) : String :=
  let result := match o.result with
    | .ok _ => "ok"
    | .error e => e.message
  "  action " ++ toString o.index ++ " (" ++ o.kind.name ++ "): " ++ result

/-- What a cycle of the alert of a name on a pool amounts to for who asked for it. -/
def tell (name : String) (pool : Pool) (cycle : CycleRun) : CommandRun :=
  let (output, result) : List String × Except CommandError Unit :=
    match cycle.outcome with
    | .noMatch => ([name ++ ": no match"], .ok ())
    | .matched report =>
      let failed : List ActionFailure → CommandError := fun fs => .watch (.actions fs)
      ((name ++ ": matched") :: report.outcomes.map outcomeLine,
        (report.toResult.mapError failed).map fun _ => ())
    | .failed e => ([], .error (.watch (.cycle e)))
  ⟨output, result, cycle.requests, cycle.logs, some pool⟩

/-- Runs one cycle of the alert of a name. -/
def forceRun (w : Surroundings m) (name : String) (c : WatchConfig) : m CommandRun := do
  match ← c.readAlerts w with
  | .error e => return .failed ⟨e, none⟩
  | .ok alerts =>
    match findAlert? alerts name with
    | none => return .failed ⟨.unknownAlert name c.alerts, none⟩
    | some alert =>
      match ← c.buildRunner w with
      | .error s => return .failed s
      | .ok runner => return tell name runner.pool (runner.run w.network w.now alert)

/-- What a watch over all alerts needs: the alerts, and a runner for their cycles. -/
def prepare (w : Surroundings m) (c : WatchConfig) :
    m (Except Setback (List AlertDefinition × CycleRunner)) := do
  match ← c.readAlerts w with
  | .error e => return .error ⟨e, none⟩
  | .ok alerts => return (← c.buildRunner w).map fun runner => (alerts, runner)

end WatchConfig

namespace Invocation

variable {m : Type → Type} [Monad m]

/-- Carries out a command.  `watch` runs the alerts of a watch until it is interrupted. -/
def perform (w : Surroundings m) (watch : List AlertDefinition → CycleRunner → m Unit)
    (i : Invocation) : m CommandRun := do
  match ← WatchConfig.load w.files i.overrides with
  | .error e => return .failed ⟨.watch (.config e), none⟩
  | .ok config =>
    match i.command with
    | .check => config.check w
    | .forceRun name => config.forceRun w name
    | .run =>
      match ← config.prepare w with
      | .error s => return .failed s
      | .ok (alerts, runner) =>
        watch alerts runner
        return ⟨[], .ok (), [], [], some runner.pool⟩

end Invocation

end Lookout
