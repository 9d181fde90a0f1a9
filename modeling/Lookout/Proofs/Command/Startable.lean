/-
What a configuration that has been checked can still be refused for.

The rules against emptiness are written down twice.  A configuration is checked as it is loaded, and
its search address and its number of slots are looked at again when a runner is built from it.  The
two agree on the slots.  They do not agree on the address: the check takes the white space away, and
the client takes the slashes at the end away as well.  So an address that the check has let pass is
refused for being empty exactly if it is slashes with white space around them.

A command comes to that refusal if it comes to building a runner.  Looking at the alerts does not.
-/
import Lookout.Proofs.Command.ForceRun
import Lookout.Proofs.Config.Layers
import Lookout.Proofs.Search.BaseUrl

namespace Lookout

open SearchClient (OnlySlashes)

/-! ### Refusals -/

/-- The error says that the search address is empty, or that there are no slots. -/
def ConfigError.RefusesEmpty : ConfigError → Prop
  | invalid fault => fault = .searchAddrBlank ∨ fault = .poolSizeZero
  | noSearchAddress => True
  | _ => False

/-- The error says that the search address is empty, or that there are no slots. -/
def CommandError.RefusesEmpty : CommandError → Prop
  | watch (.config e) => e.RefusesEmpty
  | watch (.pool e) | poolNotStarted e => e = .noSlots
  | _ => False

/-- A command has failed with an error that says so. -/
def CommandRun.RefusesWith (r : CommandRun) (e : CommandError) : Prop :=
  r.result = .error e ∧ e.RefusesEmpty

theorem CommandRun.refusesWith_failed {s : Setback} {e : CommandError} :
    (failed s).RefusesWith e ↔ s.error = e ∧ e.RefusesEmpty := by
  simp [RefusesWith, failed]

theorem CommandRun.exitStatus_eq_zero {r : CommandRun} : r.exitStatus = 0 ↔ r.result = .ok () := by
  unfold exitStatus
  cases r.result with
  | error e => simp
  | ok u => simp

/-- What comes of a cycle is no such error. -/
theorem WatchConfig.not_refusesWith_tell {name : String} {pool : Pool} {cycle : CycleRun}
    {e : CommandError} : ¬ (tell name pool cycle).RefusesWith e := by
  rintro ⟨hresult, hrefuses⟩
  cases houtcome : cycle.outcome with
  | noMatch => simp [tell, houtcome] at hresult
  | failed failure =>
      have he : e = .watch (.cycle failure) := by simpa [tell, houtcome, eq_comm] using hresult
      rw [he] at hrefuses
      exact hrefuses
  | matched report =>
      cases hreport : report.toResult with
      | ok n => simp [tell, houtcome, hreport, Except.mapError, Except.map] at hresult
      | error failures =>
          have he : e = .watch (.actions failures) := by
            simpa [tell, houtcome, hreport, Except.mapError, Except.map, eq_comm] using hresult
          rw [he] at hrefuses
          exact hrefuses

/-! ### Slots -/

namespace Pool

theorem create_eq_noSlots {size : Nat} {helpers : Option String} :
    create size helpers = .error .noSlots ↔ size = 0 := by
  unfold create
  by_cases hsize : size = 0
  · simp [hsize]
  · cases hstart : Script.Interpreter.start helpers <;> simp [hsize]

/-- Where there are slots, only the helper script can keep a pool from starting. -/
theorem kind_of_create_error {size : Nat} {helpers : Option String} {e : PoolError}
    (hsize : 0 < size) (h : create size helpers = .error e) : e.kind = .poolInit := by
  cases e with
  | noSlots => exact absurd (create_eq_noSlots.mp h) (Nat.ne_of_gt hsize)
  | helpers slot t => rfl

end Pool

/-! ### Runners -/

variable {w : Surroundings Id} {c : WatchConfig} {s : Setback}

namespace WatchConfig

/-- Nothing else is wrong with a checked address than that it is slashes, and nothing else keeps a
client for it from being made than the system. -/
theorem searchClient_eq_error (hvalid : c.IsValid) {e : ConfigError} : c.searchClient w = .error e ↔
    OnlySlashes c.searchAddr ∧ e = .noSearchAddress ∨
      ¬ OnlySlashes c.searchAddr ∧
        ∃ reason, w.clientFault .queries = some reason ∧ e = .noClient reason := by
  have hslashes : SearchClient.new? c.searchAddr c.httpTimeout = none ↔
      OnlySlashes c.searchAddr := by
    simp [SearchClient.new?_eq_none, hvalid.searchAddr]
  rw [← hslashes]
  unfold searchClient
  cases hnew : SearchClient.new? c.searchAddr c.httpTimeout with
  | none => simp [eq_comm]
  | some client => cases hfault : w.clientFault .queries <;> simp [eq_comm]

theorem readHelpers_eq_error {files : FileReader Id} {e : ConfigError}
    (h : (c.readHelpers files).run = .error e) : ∃ f, e = .unreadable f := by
  unfold readHelpers at h
  cases hscript : c.interpreter.initScript with
  | none => simp [hscript] at h
  | some path =>
      cases hread : (files.readFor .helpers path).run with
      | error f =>
          exact ⟨f, by simpa [hscript, hread, Except.mapError, Except.map, eq_comm] using h⟩
      | ok text => simp [hscript, hread, Except.mapError, Except.map] at h

/-- The stages at which a runner can come not to be built. -/
inductive BuildStops (w : Surroundings Id) (c : WatchConfig) : Setback → Prop where
  | search {e : ConfigError} (h : c.searchClient w = .error e) :
      BuildStops w c ⟨.watch (.config e), none⟩
  | helpers (f : FileFailure) : BuildStops w c ⟨.watch (.config (.unreadable f)), none⟩
  | pool {helpers : Option String} {e : PoolError}
      (h : Pool.create c.interpreter.poolSize helpers = .error e) :
      BuildStops w c ⟨.poolNotStarted e, none⟩
  | dispatcher (reason : String) (pool : Pool) :
      BuildStops w c ⟨.watch (.config (.noClient reason)), some pool⟩

theorem buildStops_of_assemble {client : SearchClient} {helpers : Option String}
    (h : c.assemble w client helpers = .error s) : BuildStops w c s := by
  unfold assemble at h
  cases hpool : Pool.create c.interpreter.poolSize helpers with
  | error e =>
      rw [hpool] at h
      cases h
      exact .pool hpool
  | ok pool =>
      cases hfault : w.clientFault .actions with
      | none => simp [hpool, WatchConfig.dispatcher, hfault] at h
      | some reason =>
          have hs : s = ⟨.watch (.config (.noClient reason)), some pool⟩ := by
            simpa [hpool, WatchConfig.dispatcher, hfault, eq_comm] using h
          rw [hs]
          exact .dispatcher reason pool

theorem buildStops_of_error (h : (c.buildRunner w).run = .error s) : BuildStops w c s := by
  unfold buildRunner at h
  cases hclient : c.searchClient w with
  | error e =>
      have hs : s = ⟨.watch (.config e), none⟩ := by simpa [hclient, eq_comm] using h
      rw [hs]
      exact .search hclient
  | ok client =>
      cases hhelpers : (c.readHelpers w.files).run with
      | error e =>
          obtain ⟨f, rfl⟩ := readHelpers_eq_error hhelpers
          have hs : s = ⟨.watch (.config (.unreadable f)), none⟩ := by
            simpa [hclient, hhelpers, eq_comm] using h
          rw [hs]
          exact .helpers f
      | ok helpers => exact buildStops_of_assemble (by simpa [hclient, hhelpers] using h)

/-- **A runner for a checked configuration is refused for emptiness if and only if the search
address is slashes.** -/
theorem buildRunner_refuses (hvalid : c.IsValid) :
    (c.buildRunner w).run = .error s ∧ s.error.RefusesEmpty ↔
      OnlySlashes c.searchAddr ∧ s = ⟨.watch (.config .noSearchAddress), none⟩ := by
  constructor
  · rintro ⟨herror, hrefuses⟩
    cases buildStops_of_error herror with
    | search h =>
        rcases (searchClient_eq_error hvalid).mp h with ⟨hslashes, rfl⟩ | ⟨-, reason, -, rfl⟩
        · exact ⟨hslashes, rfl⟩
        · exact hrefuses.elim
    | helpers f => exact hrefuses.elim
    | pool h =>
        have hnone : _ = PoolError.noSlots := hrefuses
        rw [hnone] at h
        exact absurd (Pool.create_eq_noSlots.mp h) (Nat.ne_of_gt hvalid.poolSize)
    | dispatcher reason pool => exact hrefuses.elim
  · rintro ⟨hslashes, rfl⟩
    have hclient := (searchClient_eq_error (w := w) hvalid).mpr (Or.inl ⟨hslashes, rfl⟩)
    refine ⟨?_, trivial⟩
    unfold buildRunner
    simp [hclient]

end WatchConfig

/-! ### Commands -/

/-- A command builds a runner, once it has the alerts. -/
def Command.BuildsRunner (alerts : List AlertDefinition) : Command → Prop
  | run => True
  | check => False
  | forceRun name => ∃ alert, findAlert? alerts name = some alert

variable {alerts : List AlertDefinition}

theorem WatchConfig.isValid_of_load {files : FileReader Id} {o : Overrides}
    (h : (load files o).run = .ok c) : c.IsValid := by
  obtain ⟨es, -, -, -, hvalid, rfl⟩ := load_eq_ok.mp h
  exact hvalid

theorem WatchConfig.readAlerts_of_ok (h : (loadAlertFile w.files c.alerts).run = .ok alerts) :
    (c.readAlerts w).run = .ok alerts := by
  simp [readAlerts, h, Except.mapError]

namespace Invocation

variable {i : Invocation} {watch : List AlertDefinition → CycleRunner → Id Unit}

section Loaded

variable (hload : (WatchConfig.load w.files i.overrides).run = .ok c)
  (halerts : (loadAlertFile w.files c.alerts).run = .ok alerts)
include hload halerts

/-- A command that builds a runner refuses a configuration as the runner does: what it does with one
that is built is no refusal. -/
theorem refusesWith_of_buildsRunner (hbuilds : i.command.BuildsRunner alerts) {e : CommandError} :
    (i.perform w watch).run.RefusesWith e ↔
      ∃ s, (c.buildRunner w).run = .error s ∧ s.error = e ∧ e.RefusesEmpty := by
  have hread := WatchConfig.readAlerts_of_ok halerts
  cases hcommand : i.command with
  | check =>
      rw [hcommand] at hbuilds
      exact hbuilds.elim
  | forceRun name =>
      rw [hcommand] at hbuilds
      obtain ⟨alert, hfound⟩ := hbuilds
      rw [perform_of_alerts hcommand hload halerts, hfound]
      dsimp only
      cases hrunner : (c.buildRunner w).run with
      | error s => simp [CommandRun.refusesWith_failed]
      | ok runner => simp [WatchConfig.not_refusesWith_tell]
  | run =>
      cases hrunner : (c.buildRunner w).run with
      | error s =>
          simp [perform, hload, hcommand, WatchConfig.prepare, hread, hrunner, Except.map,
            CommandRun.refusesWith_failed]
      | ok runner =>
          simp [perform, hload, hcommand, WatchConfig.prepare, hread, hrunner, Except.map,
            CommandRun.RefusesWith]

theorem not_refusesWith_of_not_buildsRunner (hbuilds : ¬ i.command.BuildsRunner alerts)
    (e : CommandError) : ¬ (i.perform w watch).run.RefusesWith e := by
  have hread := WatchConfig.readAlerts_of_ok halerts
  cases hcommand : i.command with
  | run =>
      rw [hcommand] at hbuilds
      exact absurd trivial hbuilds
  | check =>
      simp [perform, hload, hcommand, WatchConfig.check, hread, CommandRun.RefusesWith]
  | forceRun name =>
      rw [hcommand] at hbuilds
      have hunknown : findAlert? alerts name = none := by
        cases hfound : findAlert? alerts name with
        | none => rfl
        | some alert => exact absurd ⟨alert, hfound⟩ hbuilds
      rw [perform_of_alerts hcommand hload halerts, hunknown]
      dsimp only
      rw [CommandRun.refusesWith_failed]
      rintro ⟨rfl, hrefuses⟩
      exact hrefuses

/-- A command refuses a configuration for emptiness, the alerts being there, if and only if it
builds a runner and the search address is slashes. -/
theorem perform_refusesWith {e : CommandError} :
    (i.perform w watch).run.RefusesWith e ↔ OnlySlashes c.searchAddr ∧
      i.command.BuildsRunner alerts ∧ e = .watch (.config .noSearchAddress) := by
  have hvalid := WatchConfig.isValid_of_load hload
  by_cases hbuilds : i.command.BuildsRunner alerts
  · rw [refusesWith_of_buildsRunner hload halerts hbuilds]
    constructor
    · rintro ⟨s, hrunner, rfl, hrefuses⟩
      obtain ⟨hslashes, rfl⟩ := (WatchConfig.buildRunner_refuses hvalid).mp ⟨hrunner, hrefuses⟩
      exact ⟨hslashes, hbuilds, rfl⟩
    · rintro ⟨hslashes, -, rfl⟩
      obtain ⟨hrunner, hrefuses⟩ := (WatchConfig.buildRunner_refuses hvalid).mpr ⟨hslashes, rfl⟩
      exact ⟨_, hrunner, rfl, hrefuses⟩
  · refine iff_of_false (not_refusesWith_of_not_buildsRunner hload halerts hbuilds e) ?_
    exact fun h => hbuilds h.2.1

end Loaded

/-- The check passes if and only if there are a configuration and its alerts. -/
theorem check_passes (hcommand : i.command = .check) : (i.perform w watch).run.exitStatus = 0 ↔
    ∃ c alerts, (WatchConfig.load w.files i.overrides).run = .ok c ∧
      (loadAlertFile w.files c.alerts).run = .ok alerts := by
  rw [CommandRun.exitStatus_eq_zero]
  unfold perform
  cases hload : (WatchConfig.load w.files i.overrides).run with
  | error e => simp [hload, CommandRun.failed]
  | ok c =>
      cases halerts : (loadAlertFile w.files c.alerts).run with
      | error e =>
          simp [hload, hcommand, WatchConfig.check, WatchConfig.readAlerts, halerts,
            Except.mapError, CommandRun.failed]
      | ok alerts =>
          simp [hload, hcommand, WatchConfig.check, WatchConfig.readAlerts_of_ok halerts, halerts]

/-- **A checked configuration can be started, unless its address is slashes.**  For a valid one the
client is refused exactly if its address is slashes or the system cannot make it, and the pool is
never refused for want of slots.  If the check of a command line passes, then the other commands
with the same settings and files refuse the configuration for emptiness exactly if the address is
slashes and they come to build a runner, and the error is always that one. -/
theorem checked_starts (w : Surroundings Id)
    (watch : List AlertDefinition → CycleRunner → Id Unit) (o : Overrides) (level : String) :
    (∀ c : WatchConfig, c.validate = .ok c →
      (∀ e, c.searchClient w = .error e ↔
        OnlySlashes c.searchAddr ∧ e = .noSearchAddress ∨
          ¬ OnlySlashes c.searchAddr ∧
            ∃ reason, w.clientFault .queries = some reason ∧ e = .noClient reason) ∧
      ∀ helpers e, Pool.create c.interpreter.poolSize helpers = .error e → e.kind = .poolInit) ∧
    (((⟨.check, o, level⟩ : Invocation).perform w watch).run.exitStatus = 0 →
      ∃ c alerts, (WatchConfig.load w.files o).run = .ok c ∧ c.validate = .ok c ∧
        (loadAlertFile w.files c.alerts).run = .ok alerts ∧
        ∀ (w' : Surroundings Id) (watch' : List AlertDefinition → CycleRunner → Id Unit)
          (i : Invocation), w'.files = w.files → i.overrides = o →
          ∀ e, (i.perform w' watch').run.RefusesWith e ↔ OnlySlashes c.searchAddr ∧
            i.command.BuildsRunner alerts ∧ e = .watch (.config .noSearchAddress)) := by
  constructor
  · intro c hc
    have hvalid := (WatchConfig.validate_eq_ok.mp hc).1
    exact ⟨fun e => WatchConfig.searchClient_eq_error hvalid,
      fun helpers e => Pool.kind_of_create_error hvalid.poolSize⟩
  · intro hpassed
    obtain ⟨c, alerts, hload, halerts⟩ := (check_passes rfl).mp hpassed
    have hvalid := WatchConfig.isValid_of_load hload
    refine ⟨c, alerts, hload, WatchConfig.validate_eq_ok.mpr ⟨hvalid, rfl⟩, halerts, ?_⟩
    intro w' watch' i hfiles hsettings e
    refine perform_refusesWith ?_ ?_
    · rw [hfiles, hsettings]
      exact hload
    · rw [hfiles]
      exact halerts

/-- The settings of a command line with an address. -/
def addressedBy (address : String) : Overrides :=
  { Overrides.none with searchAddr := some address }

/-- The configuration of such a command line. -/
def addressedConfig (address : String) : WatchConfig :=
  WatchConfig.layered (addressedBy address) []

/-- What a command does about the siren, given an address. -/
def aired (command : Command) (address : String) : CommandRun :=
  ((⟨command, addressedBy address, "info"⟩ : Invocation).perform alarm fun _ _ => pure ()).run

theorem eq_addressedConfig {address : String}
    (h : (WatchConfig.load alarm.files (addressedBy address)).run = .ok c) :
    c = addressedConfig address := by
  rw [WatchConfig.load_of_no_config rfl, mapError_eq_ok] at h
  exact (WatchConfig.validate_eq_ok.mp h).2

/-- An address may end with a slash: nothing refuses it. -/
theorem checked_starts_siren : (aired .check "es:9200/ ").exitStatus = 0 ∧
    (addressedConfig "es:9200/ ").validate = .ok (addressedConfig "es:9200/ ") ∧
    (∀ e, (addressedConfig "es:9200/ ").searchClient alarm ≠ .error e) ∧
    ∀ command e, ¬ (aired command "es:9200/ ").RefusesWith e := by
  have hpassed : (aired .check "es:9200/ ").exitStatus = 0 := by decide +kernel
  have hslashes : ¬ OnlySlashes "es:9200/ " := by decide +kernel
  obtain ⟨hstarts, hpasses⟩ :=
    checked_starts alarm (fun _ _ => pure ()) (addressedBy "es:9200/ ") "info"
  obtain ⟨c, alerts, hload, hvalid, -, hothers⟩ := hpasses hpassed
  obtain rfl := eq_addressedConfig hload
  refine ⟨hpassed, hvalid, fun e he => ?_, fun command e hrefuses => ?_⟩
  · rcases ((hstarts _ hvalid).1 e).mp he with ⟨hslashed, -⟩ | ⟨-, reason, hfault, -⟩
    · exact hslashes hslashed
    · cases hfault
  · exact hslashes ((hothers alarm _ _ rfl rfl e).mp hrefuses).1

/-- **The address `/` passes every check, and the commands that build a runner refuse it.** -/
theorem check_passes_slash :
    (addressedConfig "/").validate = .ok (addressedConfig "/") ∧
    SearchClient.new? (addressedConfig "/").searchAddr (addressedConfig "/").httpTimeout = none ∧
    (aired .check "/").exitStatus = 0 ∧
    ∀ command, command = .run ∨ command = .forceRun "siren" →
      ∃ e, (aired command "/").RefusesWith e ∧
        e.text = "Error: invalid configuration: search address cannot be empty" := by
  have hslashes : OnlySlashes "/" := by decide +kernel
  have hfile : (loadAlertFile alarm.files "alerts.yml").run.toOption.map
      (fun alerts => (findAlert? alerts "siren").isSome) = some true := by decide +kernel
  obtain ⟨alerts, halerts, hsiren⟩ := eq_ok_of_toOption_map hfile
  have hvalid : (addressedConfig "/").validate = .ok (addressedConfig "/") := by decide +kernel
  have hload : (WatchConfig.load alarm.files (addressedBy "/")).run
      = .ok (addressedConfig "/") := by
    rw [WatchConfig.load_of_no_config rfl, mapError_eq_ok]
    exact hvalid
  refine ⟨hvalid, SearchClient.new?_eq_none.mpr (Or.inr hslashes),
    (check_passes rfl).mpr ⟨_, alerts, hload, halerts⟩, fun command hcommand => ?_⟩
  have hbuilds : command.BuildsRunner alerts := by
    rcases hcommand with rfl | rfl
    · exact trivial
    · exact Option.isSome_iff_exists.mp hsiren
  have hrefuses : (aired command "/").RefusesWith (.watch (.config .noSearchAddress)) :=
    (perform_refusesWith (i := ⟨command, addressedBy "/", "info"⟩) hload halerts).mpr
      ⟨hslashes, hbuilds, rfl⟩
  exact ⟨_, hrefuses, by decide +kernel⟩

end Invocation

end Lookout
