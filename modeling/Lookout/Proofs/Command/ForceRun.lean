/-
A forced cycle and its exit status.

The command goes through everything that can fail, one thing after the other, and stops at the
first that does: `Ready` says what it has got together when nothing has.  From then on there is one
cycle, and its outcome alone decides: the lines are printed before the failures of the actions are
looked at, so they do not depend on them.
-/
import Lookout.Command.Run
import Lookout.Proofs.Action.Report
import Lookout.Proofs.Alert.Loading
import Lookout.Proofs.Cycle.Safety

namespace Lookout

open Script (Outcome)

/-! ### What came of the cycle -/

namespace WatchConfig

end WatchConfig

variable {w : Surroundings Id} {name : String}

namespace WatchConfig

variable {c : WatchConfig} {runner : CycleRunner}

end WatchConfig

namespace Invocation

variable {i : Invocation} {watch : List AlertDefinition → CycleRunner → Id Unit}
  {c : WatchConfig} {alert : AlertDefinition} {runner : CycleRunner}

theorem perform_eq (hcommand : i.command = .forceRun name) : (i.perform w watch).run
      = match (WatchConfig.load w.files i.overrides).run with
        | .error e => .failed ⟨.watch (.config e), none⟩
        | .ok c => (c.forceRun w name).run := by
  unfold perform
  cases hload : (WatchConfig.load w.files i.overrides).run with
  | error e => simp [hload]
  | ok c => simp [hload, hcommand]

theorem forceRun_eq (c : WatchConfig) : (c.forceRun w name).run
      = match (loadAlertFile w.files c.alerts).run with
        | .error e => .failed ⟨.watch (.alerts e), none⟩
        | .ok alerts =>
          match findAlert? alerts name with
          | none => .failed ⟨.unknownAlert name c.alerts, none⟩
          | some alert =>
            match (c.buildRunner w).run with
            | .error s => .failed s
            | .ok runner =>
              WatchConfig.tell name runner.pool (runner.run w.network w.now alert) := by
  unfold WatchConfig.forceRun WatchConfig.readAlerts
  cases hload : (loadAlertFile w.files c.alerts).run with
  | error e => simp [hload, Except.mapError]
  | ok alerts =>
      cases hfound : findAlert? alerts name with
      | none => simp [hload, Except.mapError, hfound]
      | some alert =>
          cases hrunner : (c.buildRunner w).run with
          | error s => simp [hload, Except.mapError, hfound, hrunner]
          | ok runner => simp [hload, Except.mapError, hfound, hrunner]

/-- Once there are a configuration and its alerts, the name is looked up and a runner is built. -/
theorem perform_of_alerts {alerts : List AlertDefinition} (hcommand : i.command = .forceRun name)
    (hconfig : (WatchConfig.load w.files i.overrides).run = .ok c)
    (hfile : (loadAlertFile w.files c.alerts).run = .ok alerts) : (i.perform w watch).run
      = match findAlert? alerts name with
        | none => .failed ⟨.unknownAlert name c.alerts, none⟩
        | some alert =>
          match (c.buildRunner w).run with
          | .error s => .failed s
          | .ok runner =>
            WatchConfig.tell name runner.pool (runner.run w.network w.now alert) := by
  rw [perform_eq hcommand, hconfig]
  dsimp only
  rw [forceRun_eq, hfile]

/-- An alert with two actions, one of which needs a webhook. -/
def sirenFile : String :=
  "- name: ' siren '\n  search:\n    index: logs\n  condition: 'True'\n"
    ++ "  actions:\n  - type: log\n    message: up\n  - type: slack\n    text: up\n"

/-- That alert in its file, and a search backend that has an answer. -/
def alarm : Surroundings Id where
  files := fun path => if path = "alerts.yml" then .ok sirenFile else .error .missing
  network := fun _ => ⟨⟨0⟩, some ⟨200, "[]"⟩⟩
  now := 0
  patience := none

end Invocation

end Lookout
