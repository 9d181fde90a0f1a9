/-
The program: the files, the environment and the clock of the system, given to the library.

It has no way to send requests, so its network is the unreachable one.
-/
import Lookout.Command.Run
import Std.Time.DateTime.Timestamp

namespace Lookout.Program

/-- The error of a file that the system cannot read. -/
def fileError : IO.Error → FileError
  | .permissionDenied .. => .denied
  | .inappropriateType _ code _ => if code = 20 then .notFolder else .isFolder
  | _ => .missing

/-- The text of a file of the system. -/
def readFile (path : String) : IO (Except FileError String) := do
  try
    let bytes ← IO.FS.readBinFile path
    match String.fromUTF8? bytes with
    | some text => return .ok text
    | none => return .error .notText
  catch e => return .error (fileError e)

/-- The variables of the environment that settings are looked up in. -/
def readVariables : List Setting → IO (List (String × String))
  | [] => return []
  | s :: ss => do
    let value ← IO.getEnv s.variableName
    let others ← readVariables ss
    return (value.map fun v => (s.variableName, v)).toList ++ others

/-- The time, in seconds since 1970. -/
def currentTime : IO Nat := do
  return (← Std.Time.Timestamp.now).toSecondsSinceUnixEpoch.val.toNat

/-- What the program finds around it. -/
def surroundings : IO (Surroundings IO) := do
  return { files := readFile, network := .unreachable, now := ← currentTime, patience := none }

/-- The nanoseconds since the clock of the system started. -/
def clock : BaseIO Nat := do
  return (← IO.monoMsNow) * 1000000

/-- An alert and its task. -/
structure Entry where
  alert : AlertDefinition
  task : AlertTask

/-- The tasks of alerts, with the first cycle of each due at a moment. -/
def entries (first : Nat) (alerts : List AlertDefinition) : List Entry :=
  alerts.filterMap fun alert => (Ticker.every? alert.interval first).map fun t => ⟨alert, .new t⟩

/-- The task after the cycle that is due at a moment, and the pool after it. -/
def runDue (runner : CycleRunner) (entry : Entry) : IO (CycleRunner × Entry) := do
  let start ← clock
  match entry.task.step? (.wake start) with
  | none => return (runner, entry)
  | some task =>
    let cycle := runner.run .unreachable (← currentTime) entry.alert
    for record in cycle.logs do
      IO.eprintln (record.alert ++ ": " ++ record.message)
    let ended := (task.step? (.finish (← clock) cycle.outcome)).getD task
    return ({ runner with pool := cycle.pool }, { entry with task := ended })

/-- Runs the cycles that are due, over and over. -/
partial def watchTasks (runner : CycleRunner) (entries : List Entry) : IO Unit := do
  let mut runner := runner
  let mut later := []
  for entry in entries do
    let (r, e) ← runDue runner entry
    runner := r
    later := e :: later
  IO.sleep 1
  watchTasks runner later.reverse

/-- Runs alerts until the program is interrupted. -/
def watch (alerts : List AlertDefinition) (runner : CycleRunner) : IO Unit := do
  watchTasks runner (entries (← clock) alerts)

/-- Carries out a command line, and answers the exit status. -/
def execute : CommandLine → IO Nat
  | .help => do
    IO.println ("\n".intercalate CommandLine.usage)
    return 0
  | .version => do
    IO.println versionLine
    return 0
  | .invoke i => do
    let done ← i.perform (← surroundings) watch
    IO.print done.outputText
    match done.result with
    | .ok _ => pure ()
    | .error e => IO.eprintln e.text
    return done.exitStatus

/-- Carries out words, and answers the exit status. -/
def start (words : List String) : IO Nat := do
  let environment ← readVariables Setting.all
  match CommandLine.parse (fun name => environment.lookup name) words with
  | .error e => do
    IO.eprintln ("error: " ++ e.message)
    return usageStatus
  | .ok line => execute line

end Lookout.Program

/-- Carries out the words that the program was started with. -/
def main (words : List String) : IO UInt32 := do
  return (← Lookout.Program.start words).toUInt32
