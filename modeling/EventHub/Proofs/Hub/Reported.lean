import EventHub.Proofs.Hub.Configured

/-! # Reported settings and the settings in use

The configuration reports a setting in three places: by its name, under its dotted key, and in the summary for
debugging. After a load that succeeds they agree (`Configuration.Reports`), and environment and log level are
always among those that have a name. The limit of event names is at least one unless the settings file has a
smaller one: only the variable is checked against the least limit. A hub that is made with the configuration
takes one in place of a smaller limit, so that its limit is then not the reported one
(`file_limit_not_in_use`).

Main statement: `reported_settings_valid`.
-/

namespace EventHub

namespace Settings

open Load

/-- A configuration reports a value as the setting of a name, under a dotted key and under a key of the summary,
and it answers so when the key is looked up. -/
structure Configuration.Reports (c : Configuration) (name key item : String) (v : Value) : Prop where
  listed : c.settings.listing.find? name = some v
  merged : c.value? key = some v
  summarized : c.settings.summary.find? item = some v
  lookup : ∀ (l : Loading) (default : Value), l.configuration = c →
    outcome (Settings.lookup key default) l = (.ok v, l)

/-- A load that succeeds leaves a configuration that reports each setting with a value in the same way in all
places. -/
theorem load_reports {l l' : Loading} (h : outcome load l = (.ok ⟨⟩, l')) {name key item : String} {v : Value}
    (hv : v ≠ .none) (hlisted : l'.configuration.settings.listing.find? name = some v)
    (hmerged : l'.configuration.settings.merged.find? key = some v)
    (hsummarized : l'.configuration.settings.summary.find? item = some v) :
    l'.configuration.Reports name key item v := by
  obtain ⟨bindings, values, -, -, -, -, hvalues, hloaded⟩ := load_ok h
  -- the setting wins over what the file has under its key
  have hvalue : l'.configuration.value? key = some v := value?_of_merged hvalues hmerged hv
  refine ⟨hlisted, hvalue, hsummarized, fun k default hk => ?_⟩
  rw [outcome_lookup_loaded (hk ▸ hloaded), hk, hvalue]
  rfl

/-- The names of the environments. -/
def environmentLabels : List String := ["development", "testing", "staging", "production"]

/-- The names of the log levels. -/
def logLevelLabels : List String := ["DEBUG", "INFO", "WARNING", "ERROR", "CRITICAL"]

theorem Environment.label_mem (e : Environment) : e.label ∈ environmentLabels := by
  cases e <;> decide

theorem LogLevel.label_mem (level : LogLevel) : level.label ∈ logLevelLabels := by
  cases level <;> decide

/-- A limit in force is at least one unless the file gives it. -/
theorem LimitInForce.least_or_ofFile {raw? : Option String} {values : Fields} {key : String} {limit : Int}
    (h : LimitInForce raw? values key limit) :
    1 ≤ limit ∨ integerAt? values key = .ok (some limit) ∧ ∀ i, raw?.bind integer? = some i → i < 1 := by
  cases h with
  | ofVariable hvariable hleast => exact .inl hleast
  | ofFile hvariable hfile => exact .inr ⟨hfile, hvariable⟩
  | builtIn hvariable hfile => exact .inl (by decide)

end Settings

namespace Hub

open Run

/-- A hub made without counters takes its limit from the configuration that the settings answer. -/
theorem create_limit {w : World} {c : Settings.Configuration} (h : w.Answers (.ok c)) {limit : Int}
    (hlimit : c.value? "mediator.metrics_max_event_names" = some (.int limit)) (givenRegistry : Option Nat)
    (handler? : Option (Handler Behaviour)) (metrics validates warns : Value) :
    ∃ n v, outcome (create givenRegistry none handler? metrics validates warns) w = (.ok n, v) ∧
      (v.tally (v.hub n).tally).limit = (max 1 limit).toNat := by
  have hlimitFrom : limitFrom (.ok c) = .ok (max 1 limit).toNat := by
    rw [limitFrom, hlimit]
    rfl
  obtain ⟨n, v, hrun, -, -, -, htally⟩ :=
    create_of_answers givenRegistry none handler? metrics validates warns h rfl rfl rfl hlimitFrom
  exact ⟨n, v, hrun, htally rfl⟩

open Settings in
/-- **What a load that succeeds reports is valid and in use.** Environment and log level are among those that
have a name, and each setting is the same in all places where it is reported. So is the limit of event names,
which is the one in force; it is at least one unless the settings file has a smaller integer and no variable has
one from one on. A hub that is made with the configuration uses the reported limit, or one in place of a smaller
one. -/
theorem reported_settings_valid {l l' : Loading} (hdistinct : l.machine.services.Distinct)
    (h : load.run l = (.ok ⟨⟩, l')) :
    ∃ bindings values, variablesFile l.machine = .ok bindings ∧
      fileFields (l.machine.setMissing bindings) = .ok values ∧
      (∃ e ∈ environmentLabels,
        l'.configuration.Reports "ENVIRONMENT" "environment" "environment" (.text e)) ∧
      (∃ level ∈ logLevelLabels,
        l'.configuration.Reports "LOG_LEVEL" "logging.level" "log_level" (.text level)) ∧
      ∃ limit, l'.configuration.Reports "METRICS_MAX_EVENT_NAMES" "mediator.metrics_max_event_names"
          "metrics_max_event_names" (.int limit) ∧
        LimitInForce (variableInForce? l.machine bindings "MEDIATOR_METRICS_MAX_EVENT_NAMES") values
          "mediator.metrics_max_event_names" limit ∧
        (1 ≤ limit ∨ integerAt? values "mediator.metrics_max_event_names" = .ok (some limit) ∧
          ∀ i, (variableInForce? l.machine bindings "MEDIATOR_METRICS_MAX_EVENT_NAMES").bind integer? = some i →
            i < 1) ∧
        ∀ (w : World), w.Answers (.ok l'.configuration) → ∀ givenRegistry handler? metrics validates warns,
          ∃ n v, outcome (create givenRegistry none handler? metrics validates warns) w = (.ok n, v) ∧
            (v.tally (v.hub n).tally).limit = (max 1 limit).toNat := by
  obtain ⟨bindings, values, hvariables, hmachine, hfields, hsettings, -, -⟩ := load_ok h
  have hlimit := LimitInForce.of_finding hsettings.maxEventNames
  -- the machine of the load and the one with the variables of the file set answer the same variables
  rw [hmachine, variableNamed?_inForce hdistinct hvariables] at hlimit
  rw [hmachine] at hfields
  have hreported : l'.configuration.Reports "METRICS_MAX_EVENT_NAMES" "mediator.metrics_max_event_names"
      "metrics_max_event_names" (.int l'.configuration.settings.maxEventNames) :=
    load_reports h nofun rfl rfl rfl
  refine ⟨bindings, values, hvariables, hfields,
    ⟨_, l'.configuration.settings.environment.label_mem, load_reports h nofun rfl rfl rfl⟩,
    ⟨_, l'.configuration.settings.logLevel.label_mem, load_reports h nofun rfl rfl rfl⟩,
    l'.configuration.settings.maxEventNames, hreported, hlimit, hlimit.least_or_ofFile, ?_⟩
  intro w hanswers givenRegistry handler? metrics validates warns
  exact create_limit hanswers hreported.merged givenRegistry handler? metrics validates warns

/-- A world in which a variable gives the limit, and a settings file the environment and the log level. -/
def Sample.reported : World where
  machine := Settings.Sample.machine
    [("MEDIATOR_CONFIG_FILE", "conf.yaml"), ("MEDIATOR_METRICS_MAX_EVENT_NAMES", " +1_2 ")]
    [("conf.yaml", "environment: STAGING\nlogging:\n  level: error\n")]

open Settings in
/-- Environment and level of the file and the limit of the variable are reported, and a hub that is made has
this limit. -/
theorem reported_settings_valid_staging :
    ∃ l n v, load.run Sample.reported.loading = (.ok ⟨⟩, l) ∧
      l.configuration.Reports "ENVIRONMENT" "environment" "environment" (.text "staging") ∧
      l.configuration.Reports "LOG_LEVEL" "logging.level" "log_level" (.text "ERROR") ∧
      l.configuration.Reports "METRICS_MAX_EVENT_NAMES" "mediator.metrics_max_event_names"
        "metrics_max_event_names" (.int 12) ∧
      outcome (create none none none .none .none .none) Sample.reported = (.ok n, v) ∧
      (v.tally (v.hub n).tally).limit = 12 := by
  have hloads : (load.run Sample.reported.loading).1.toBool = true := by decide +kernel
  have hsettings : (load.run Sample.reported.loading).2.configuration.settings =
      { environment := .staging, logLevel := .error, maxEventNames := 12,
        configFile := some (Path.ofText "conf.yaml") } := by decide +kernel
  obtain ⟨l, hrun⟩ := exists_run_of_toBool hloads
  rw [hrun] at hsettings
  obtain ⟨-, -, -, -, ⟨e, -, he⟩, ⟨level, -, hlevel⟩, limit, hlimit, -, -, hcreate⟩ :=
    reported_settings_valid Services.distinct_standard hrun
  -- what is listed is told by the settings
  have hlisted := he.listed
  have hlistedLevel := hlevel.listed
  have hlistedLimit := hlimit.listed
  rw [hsettings] at hlisted hlistedLevel hlistedLimit
  obtain rfl : "staging" = e := Value.text.inj (Option.some.inj hlisted)
  obtain rfl : "ERROR" = level := Value.text.inj (Option.some.inj hlistedLevel)
  obtain rfl : 12 = limit := Value.int.inj (Option.some.inj hlistedLimit)
  obtain ⟨n, v, hhub, hcap⟩ := hcreate Sample.reported (.loads rfl hrun) none none .none .none .none
  exact ⟨l, n, v, hrun, he, hlevel, hlimit, hhub, hcap⟩

/-- A world with a limit of zero in its settings file. -/
def Sample.limitless : World where
  machine := Settings.Sample.machine [("MEDIATOR_CONFIG_FILE", "conf.yaml")]
    [("conf.yaml", "mediator:\n  metrics_max_event_names: 0\n")]

/-- A limit of zero in the settings file is loaded and reported, and is not the limit of a hub that is made. -/
theorem file_limit_not_in_use :
    ∃ l n v, Settings.load.run Sample.limitless.loading = (.ok ⟨⟩, l) ∧
      l.configuration.Reports "METRICS_MAX_EVENT_NAMES" "mediator.metrics_max_event_names"
        "metrics_max_event_names" (.int 0) ∧
      outcome (create none none none .none .none .none) Sample.limitless = (.ok n, v) ∧
      (v.tally (v.hub n).tally).limit = 1 := by
  have hloads : (Settings.load.run Sample.limitless.loading).1.toBool = true := by decide +kernel
  have hlimit : (Settings.load.run Sample.limitless.loading).2.configuration.settings =
      { maxEventNames := 0, configFile := some (Path.ofText "conf.yaml") } := by decide +kernel
  obtain ⟨l, hrun⟩ := Settings.exists_run_of_toBool hloads
  rw [hrun] at hlimit
  -- zero is reported everywhere, as the minimum is not looked at where the file gives the limit
  have hreported : l.configuration.Reports "METRICS_MAX_EVENT_NAMES" "mediator.metrics_max_event_names"
      "metrics_max_event_names" (.int 0) := by
    refine Settings.load_reports hrun nofun ?_ ?_ ?_ <;> rw [hlimit] <;> rfl
  obtain ⟨n, v, hcreate, hcap⟩ :=
    create_limit (.loads rfl hrun) hreported.merged none none .none .none .none
  exact ⟨l, n, v, hrun, hreported, hcreate, hcap⟩

end Hub

end EventHub
