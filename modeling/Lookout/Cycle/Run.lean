/-
Running one cycle of an alert.

The three stages follow each other: the query, the condition, the actions.  Each stage needs
the one before it to have ended well and in time, so nothing is done about an alert unless its
query has an answer and its condition holds.  One deadline, counted from the start, covers all
three; what a stage had already sent or written when it passed stays sent and written.

Every cycle makes a context of its own, so that nothing a condition leaves behind is there in
the next one.
-/
import Lookout.Action.Dispatch
import Lookout.Alert.Basic
import Lookout.Cycle.Basic
import Lookout.Pool.Session

namespace Lookout

/-- What is needed to run cycles. -/
structure CycleRunner where
  search : SearchBackend
  pool : Pool
  dispatcher : Dispatcher
  /-- The deadline of a cycle, counted from its start. -/
  timeout : Duration
  /-- How many statements a condition may run before the deadline passes. -/
  patience : Option Nat

/-- What one cycle did. -/
structure CycleRun where
  outcome : CycleOutcome
  /-- What the condition answered, if it was run. -/
  condition : Option Pool.Evaluation
  requests : List HttpRequest
  logs : List LogRecord
  /-- The pool after it. -/
  pool : Pool
  took : Duration

namespace CycleRunner

/-- Whether a time that passed since the start of a cycle is past its deadline. -/
def isLate (r : CycleRunner) (passed : Duration) : Bool :=
  r.timeout.nanoseconds < passed.nanoseconds

/-- The cycle of a query that ended with no answer, or too late. -/
def failAtQuery (r : CycleRunner) (e : CycleError) (query : QueryRun) : CycleRun :=
  { outcome := .failed e
    condition := none
    requests := query.requests
    logs := []
    pool := r.pool
    took := ⟨min query.took.nanoseconds r.timeout.nanoseconds⟩ }

/-- The cycle of a condition that does not lead to actions. -/
def endAtCondition (outcome : CycleOutcome) (query : QueryRun) (took : Duration)
    (answered : Pool.Evaluation × Pool) : CycleRun :=
  { outcome, took
    condition := some answered.1
    requests := query.requests
    logs := []
    pool := answered.2 }

/-- The actions of an alert whose condition holds. -/
def act (r : CycleRunner) (net : Network) (alert : AlertDefinition) (c : AlertContext)
    (query : QueryRun) (answered : Pool.Evaluation × Pool) : CycleRun :=
  let dispatch := r.dispatcher.dispatchAll net c alert.actions
  let passed : Duration := ⟨query.took.nanoseconds + dispatch.took.nanoseconds⟩
  { outcome := if r.isLate passed then .failed (.timeout r.timeout) else .matched dispatch.report
    condition := some answered.1
    requests := query.requests ++ dispatch.requests
    logs := dispatch.logs
    pool := answered.2
    took := ⟨min passed.nanoseconds r.timeout.nanoseconds⟩ }

/-- The condition of an alert whose query has an answer, and what follows from it. -/
def judge (r : CycleRunner) (net : Network) (alert : AlertDefinition) (c : AlertContext)
    (query : QueryRun) : CycleRun :=
  let answered := r.pool.evaluate r.patience ⟨alert.condition, c⟩
  match answered.1 with
  | .gaveUp => endAtCondition (.failed (.timeout r.timeout)) query r.timeout answered
  | .answered (.error e) => endAtCondition (.failed (.script e)) query query.took answered
  | .answered (.ok o) =>
    if o.matched then r.act net alert (c.withResult o.result) query answered
    else endAtCondition .noMatch query query.took answered

/-- One cycle of an alert that starts at a time, in seconds since 1970. -/
def run (r : CycleRunner) (net : Network) (now : Nat) (alert : AlertDefinition) : CycleRun :=
  let query := r.search alert.search
  if r.isLate query.took then r.failAtQuery (.timeout r.timeout) query
  else match query.result with
    | .error e => r.failAtQuery (.query e) query
    | .ok v => r.judge net alert ⟨alert.name, now, v⟩ query

/-- One cycle of each of some alerts, in order. -/
def runEach (r : CycleRunner) (net : Network) (now : Nat) : List AlertDefinition → List CycleRun
  | [] => []
  | a :: as =>
    let cycle := r.run net now a
    cycle :: runEach { r with pool := cycle.pool } net now as

end CycleRunner

end Lookout
