import EventHub.Proofs.Session.Plain
import EventHub.Proofs.Settings.Failure
import EventHub.Proofs.Settings.Precedence

/-! # New hubs and the settings

A hub that is made takes from the settings what it is not given, and the first look into them loads them. What
the settings answer is fixed from then on (`World.Answers`): either there is a configuration, or each look
begins a load anew, which fails in the same way every time. Each flag and the limit of the counters follow from
the answer alone.

Main statements: `create_inForce` where the settings can be loaded, and `create_unloadable` where they cannot.
-/

namespace EventHub

open Run

/-! ## Looking into the settings -/

namespace World

variable {w v : World} {r : Except Fault Settings.Configuration}

/-- The load that a look into the settings begins. -/
def loading (w : World) : Settings.Loading := ⟨w.machine, w.configuration, []⟩

/-- What the settings answer in a world, now and each time later: a configuration that is there, or that a load
gives, or the fault of each load. Where a load fails, nothing is logged on the machine, and the file of variables
says the same again. -/
inductive Answers (w : World) : Except Fault Settings.Configuration → Prop
  | loaded (h : w.configuration.loaded = true) : w.Answers (.ok w.configuration)
  | loads {l : Settings.Loading} (h : w.configuration.loaded = false)
      (hload : Settings.load.run w.loading = (.ok ⟨⟩, l)) : w.Answers (.ok l.configuration)
  | fails {f : Fault} {l : Settings.Loading} (h : w.configuration.loaded = false) (hsink : w.sink? = none)
      (hrereads : w.machine.services.Rereads) (hload : Settings.load.run w.loading = (.error f, l)) : w.Answers (.error f)

/-- The answer depends on the settings, the machine and the sink. -/
theorem Answers.of_same (h : w.Answers r) (hconfiguration : v.configuration = w.configuration)
    (hmachine : v.machine = w.machine) (hsink : v.sink? = w.sink?) : v.Answers r := by
  have hloading : v.loading = w.loading := by rw [loading, loading, hconfiguration, hmachine]
  cases h with
  | loaded h =>
      rw [← hconfiguration] at h ⊢
      exact .loaded h
  | loads h hload => exact .loads (hconfiguration ▸ h) (hloading ▸ hload)
  | fails h hnone hrereads hload =>
      exact .fails (hconfiguration ▸ h) (hsink.trans hnone) (hmachine ▸ hrereads) (hloading ▸ hload)

/-- Logging leaves the settings alone. -/
@[simp] theorem configuration_afterLog (w : World) (r : Log.Record) :
    (w.afterLog r).configuration = w.configuration := by
  unfold afterLog logged
  split
  · rfl
  · cases w.sink? <;> rfl

/-- Without a sink, logging leaves the machine alone. -/
theorem afterLog_unsunk (hsink : w.sink? = none) (r : Log.Record) :
    (w.afterLog r).machine = w.machine ∧ (w.afterLog r).sink? = none := by
  unfold afterLog logged
  rw [hsink]
  split
  · exact ⟨rfl, hsink⟩
  · exact ⟨rfl, hsink⟩

/-- Settings that cannot be loaded stay so when something is logged. -/
theorem Answers.afterLog {f : Fault} (h : w.Answers (.error f)) (r : Log.Record) :
    (w.afterLog r).Answers (.error f) := by
  have hsink : w.sink? = none := by
    cases h with
    | fails _ hsink _ _ => exact hsink
  obtain ⟨hmachine, hunsunk⟩ := afterLog_unsunk hsink r
  exact h.of_same (w.configuration_afterLog r) hmachine (hunsunk.trans hsink.symm)

end World

namespace Run

variable {α : Type} {w : World} {r : Except Fault Settings.Configuration}

/-- The warnings of a load are logged, and leave the settings alone. -/
theorem outcome_warnings (messages : List String) (w : World) :
    ∃ v, outcome (messages.forM fun message => log "root" 30 (.text message) [] [] none) w = (.ok ⟨⟩, v) ∧
      v.configuration = w.configuration ∧
      (w.sink? = none → v.machine = w.machine ∧ v.sink? = none) := by
  induction messages generalizing w with
  | nil => exact ⟨w, rfl, rfl, fun hsink => ⟨rfl, hsink⟩⟩
  | cons message messages ih =>
      rw [outcome_forM_cons, outcome_log rfl]
      -- the induction goes on in the world that has the first warning logged
      obtain ⟨v, hv, hconfiguration, hunsunk⟩ := ih (w.afterLog
        { logger := "root", level := 30, message := .text message, created := Log.sessionMoment })
      refine ⟨v, hv, hconfiguration.trans (w.configuration_afterLog _), fun hsink => ?_⟩
      obtain ⟨hmachine, hnone⟩ := World.afterLog_unsunk hsink
        { logger := "root", level := 30, message := .text message, created := Log.sessionMoment }
      exact ⟨(hunsunk hnone).1.trans hmachine, (hunsunk hnone).2⟩

/-- A step of the settings ends as the step itself does, and leaves what that leaves. -/
theorem outcome_settings {act : Settings.Load α} {x : Except Fault α} {l : Settings.Loading}
    (hact : Settings.Load.outcome act w.loading = (x, l)) :
    ∃ v, outcome (settings act) w = (x.mapError .fault, v) ∧ v.configuration = l.configuration ∧
      (w.sink? = none → v.machine = l.machine ∧ v.sink? = none) := by
  obtain ⟨v, hv, hconfiguration, hunsunk⟩ := outcome_warnings l.warnings
    { w with machine := l.machine, configuration := l.configuration }
  refine ⟨v, ?_, hconfiguration, hunsunk⟩
  have hrun : act.run ⟨w.machine, w.configuration, []⟩ = (x, l) := hact
  rw [settings, outcome_get_bind]
  simp only [hrun]
  rw [outcome_set_bind, outcome_bind_ok hv]
  cases x <;> rfl

end Run

/-- **A look into the settings** ends as they answer, and they answer the same afterwards. -/
theorem World.Answers.lookup {w : World} {r : Except Fault Settings.Configuration} (h : w.Answers r)
    (key : String) (default : Value) :
    ∃ v, outcome (settings (Settings.lookup key default)) w =
        ((r.map fun c => (c.value? key).getD default).mapError .fault, v) ∧ v.Answers r := by
  cases h with
  | loaded h =>
      -- a configuration that is there is read, and nothing else happens
      obtain ⟨v, hv, hconfiguration, -⟩ :=
        outcome_settings (Settings.outcome_lookup_loaded (l := w.loading) h key default)
      have hsame : v.configuration = w.configuration := hconfiguration
      refine ⟨v, hv, ?_⟩
      rw [← hsame] at h ⊢
      exact .loaded h
  | @loads l h hload =>
      obtain ⟨v, hv, hconfiguration, -⟩ :=
        outcome_settings (Settings.outcome_lookup_of_load (l := w.loading) h hload key default)
      obtain ⟨-, -, -, -, -, -, -, hloaded⟩ := Settings.load_ok hload
      refine ⟨v, hv, ?_⟩
      -- from now on the configuration is there
      rw [← hconfiguration] at hloaded ⊢
      exact .loaded hloaded
  | @fails f l h hsink hrereads hload =>
      obtain ⟨v, hv, hconfiguration, hunsunk⟩ :=
        outcome_settings (Settings.outcome_lookup_of_load (l := w.loading) h hload key default)
      obtain ⟨hmachine, hnone⟩ := hunsunk hsink
      -- the next load begins on the machine that this one left, and fails again
      obtain ⟨-, hloaded⟩ := Settings.load_error_frame hload
      obtain ⟨l', hagain, -⟩ := Settings.load_fails_again hrereads hload v.configuration []
      rw [← hmachine] at hagain
      rw [← hconfiguration] at hloaded
      have hservices : v.machine.services = w.machine.services := by
        rw [hmachine, Settings.load_services hload]
        rfl
      exact ⟨v, hv, .fails (hloaded.trans h) hnone (hservices ▸ hrereads) hagain⟩

/-- A look into the settings whose fault is held back. -/
theorem World.Answers.attempt {w : World} {r : Except Fault Settings.Configuration} (h : w.Answers r)
    (key : String) (default : Value) :
    ∃ v, outcome (attempt (settings (Settings.lookup key default))) w =
        (.ok (r.map fun c => (c.value? key).getD default), v) ∧ v.Answers r := by
  obtain ⟨v, hv, hanswers⟩ := h.lookup key default
  refine ⟨v, ?_, hanswers⟩
  rw [outcome_attempt, hv]
  cases r <;> rfl

namespace Hub

variable {w : World} {r : Except Fault Settings.Configuration}

/-! ## What a new hub takes from the settings -/

/-- The flag of a new hub that is given a value, where the settings have `flag`. -/
def flagOr (given : Value) (flag : Bool) : Bool :=
  match given with
  | .none => flag
  | v => v.isTruthy

/-- The flag that the settings answer. -/
def flagFrom (key : String) : Except Fault Settings.Configuration → Except Fault Bool
  | .ok c => .ok ((c.value? key).getD (.bool true)).isTruthy
  | .error f => if f.isSettingsFault then .ok true else .error f

/-- The limit that the settings answer. -/
def limitFrom : Except Fault Settings.Configuration → Except Fault Nat
  | .ok c =>
    match (c.value? "mediator.metrics_max_event_names").getD (.int Tally.defaultLimit) with
    | .int i => .ok (max 1 i).toNat
    | _ => .ok Tally.defaultLimit
  | .error f => if f.isSettingsFault then .ok Tally.defaultLimit else .error f

/-- A flag that is given: the settings are not asked. -/
theorem outcome_flag_given {given : Value} (hgiven : given ≠ .none) (key : String) (flag : Bool) :
    outcome (Hub.flag key given) w = (.ok (flagOr given flag), w) := by
  cases given with
  | none => exact absurd rfl hgiven
  | _ => rfl

/-- A flag that is not given. -/
theorem outcome_flag_none (h : w.Answers r) (key : String) :
    ∃ v, outcome (flag key .none) w = ((flagFrom key r).mapError .fault, v) ∧ v.Answers r := by
  obtain ⟨v, hv, hanswers⟩ := h.attempt key (.bool true)
  unfold flag
  dsimp only
  rw [outcome_bind_ok hv]
  cases r with
  | ok c => exact ⟨v, rfl, hanswers⟩
  | error f =>
      unfold flagFrom
      dsimp only [Except.map]
      split
      · -- a fault of the settings is logged and passed over
        rw [hubLog, outcome_bind_ok (outcome_log rfl _)]
        exact ⟨_, rfl, hanswers.afterLog _⟩
      · exact ⟨v, rfl, hanswers⟩

/-- A flag where the settings answer with one. -/
theorem outcome_flag (h : w.Answers r) (key : String) (given : Value) {b : Bool}
    (hflag : flagFrom key r = .ok b) :
    ∃ v, outcome (flag key given) w = (.ok (flagOr given b), v) ∧ v.Answers r := by
  by_cases hgiven : given = .none
  · subst hgiven
    obtain ⟨v, hv, hanswers⟩ := outcome_flag_none h key
    rw [hflag] at hv
    exact ⟨v, hv, hanswers⟩
  · exact ⟨w, outcome_flag_given hgiven key b, h⟩

/-- The limit of new counters. -/
theorem outcome_nameLimit (h : w.Answers r) :
    ∃ v, outcome nameLimit w = ((limitFrom r).mapError .fault, v) ∧ v.Answers r := by
  obtain ⟨v, hv, hanswers⟩ := h.attempt "mediator.metrics_max_event_names" (.int Tally.defaultLimit)
  unfold nameLimit
  dsimp only
  rw [outcome_bind_ok hv]
  cases r with
  | ok c =>
      refine ⟨v, ?_, hanswers⟩
      unfold limitFrom
      dsimp only [Except.map]
      split <;> simp_all [Except.mapError]
  | error f =>
      unfold limitFrom
      dsimp only [Except.map]
      split
      · -- a fault of the settings is logged and passed over
        rw [hubLog, outcome_bind_ok (outcome_log rfl _)]
        exact ⟨_, rfl, hanswers.afterLog _⟩
      · exact ⟨v, rfl, hanswers⟩

/-! ## Making hubs -/

/-- Choosing the registry leaves the answers of the settings as they were. -/
theorem chooseRegistry_of_answers (h : w.Answers r) (given? : Option Nat) :
    ∃ n v, outcome (chooseRegistry given?) w = (.ok n, v) ∧ v.Answers r := by
  cases given? with
  | some n => exact ⟨n, w, rfl, h⟩
  | none => exact ⟨w.issued, _, outcome_fresh w, h.of_same rfl rfl rfl⟩

/-- Installing the handler of failing actors leaves the answers of the settings as they were. -/
theorem install_of_answers (h : w.Answers r) (handler? : Option (Handler Behaviour)) :
    ∃ installed? v, outcome (install handler?) w = (.ok installed?, v) ∧ v.Answers r := by
  cases handler? with
  | none => exact ⟨none, w, rfl, h⟩
  | some handler =>
      have hissued : ((Effect.issue).apply w).Answers r := h.of_same rfl rfl rfl
      exact ⟨some ⟨handler, w.issued⟩, _, rfl, hissued⟩

/-- Counters that are not given have the limit that the settings answer. -/
theorem chooseTally_of_answers (h : w.Answers r) {limit : Nat} (hlimit : limitFrom r = .ok limit)
    (given? : Option Nat) :
    ∃ n v, outcome (chooseTally given?) w = (.ok n, v) ∧ v.Answers r ∧
      (given? = none → n < v.issued ∧ (v.tally n).limit = limit) := by
  cases given? with
  | some n => exact ⟨n, w, rfl, h, nofun⟩
  | none =>
      obtain ⟨u, hu, hanswers⟩ := outcome_nameLimit h
      rw [hlimit] at hu
      refine ⟨u.issued, ((Effect.issue).apply u).setTally u.issued { limit := limit }, ?_,
        hanswers.of_same rfl rfl rfl, fun _ => ⟨Nat.lt_succ_self _, ?_⟩⟩
      · unfold chooseTally
        exact outcome_bind_ok hu _
      · rw [World.tally_setTally, if_pos rfl]

variable (givenRegistry givenTally : Option Nat) (handler? : Option (Handler Behaviour))
  (metrics validates warns : Value)

/-- **A hub is made** where the settings answer with flags and a limit. -/
theorem create_of_answers (h : w.Answers r) {m c s : Bool} {limit : Nat}
    (hmetrics : flagFrom "mediator.metrics_enabled" r = .ok m)
    (hvalidates : flagFrom "mediator.validate_actors" r = .ok c)
    (hwarns : flagFrom "mediator.warn_unknown_unlisten" r = .ok s) (hlimit : limitFrom r = .ok limit) :
    ∃ n v, outcome (create givenRegistry givenTally handler? metrics validates warns) w = (.ok n, v) ∧
      (v.hub n).metrics = flagOr metrics m ∧ (v.hub n).validates = flagOr validates c ∧
      (v.hub n).warns = flagOr warns s ∧
      (givenTally = none → (v.tally (v.hub n).tally).limit = limit) := by
  unfold create
  obtain ⟨registry, u, hu, h⟩ := chooseRegistry_of_answers h givenRegistry
  rw [outcome_bind_ok hu]
  obtain ⟨tally, v₀, hv₀, h, hnew⟩ := chooseTally_of_answers h hlimit givenTally
  rw [outcome_bind_ok hv₀]
  -- what follows does not touch the counters, up to the hub itself
  obtain ⟨handler?, v₁, hv₁, h⟩ := install_of_answers h handler?
  rw [outcome_bind_ok hv₁]
  obtain ⟨v₂, hv₂, h⟩ := outcome_flag h "mediator.metrics_enabled" metrics hmetrics
  rw [outcome_bind_ok hv₂]
  obtain ⟨v₃, hv₃, h⟩ := outcome_flag h "mediator.validate_actors" validates hvalidates
  rw [outcome_bind_ok hv₃]
  obtain ⟨v₄, hv₄, h⟩ := outcome_flag h "mediator.warn_unknown_unlisten" warns hwarns
  rw [outcome_bind_ok hv₄]
  have halike : v₀.Alike v₄ :=
    (World.Alike.of_outcome (install_does _) rfl hv₁).trans <|
      (World.Alike.of_outcome (flag_does ..) rfl hv₂).trans <|
        (World.Alike.of_outcome (flag_does ..) rfl hv₃).trans <|
          World.Alike.of_outcome (flag_does ..) rfl hv₄
  rw [outcome_bind_ok (outcome_fresh v₄), outcome_modify_bind, hubLog, outcome_bind_ok (outcome_log rfl _)]
  refine ⟨_, _, rfl, ?_⟩
  rw [(World.Alike.afterLog _ _).hub, World.hub_setHub, if_pos rfl]
  refine ⟨rfl, rfl, rfl, fun hgiven => ?_⟩
  obtain ⟨hissued, htally⟩ := hnew hgiven
  have hlater : tally < v₄.issued + 1 := (hissued.trans_le halike.issued).trans (Nat.lt_succ_self _)
  rw [(World.Alike.afterLog _ _).tally tally hlater, ← htally, ← halike.tally tally hissued]
  rfl

/-! ## Settings that can be loaded -/

open Settings in
/-- **Where the flags and the limit of a new hub come from**, if the settings were not loaded before and can be.
A flag that is given wins. Else the variable wins that is set, also when it is blank, or that of the file of
variables if none is set, as long as it is a flag. Else the settings file wins if it has the dotted key, and
else the flag is on. In the same way the limit of new counters comes from a variable that is an integer from one
on, or from the settings file, or else is built in; it is never below one. -/
theorem create_inForce (hdistinct : w.machine.services.Distinct) (hloaded : w.configuration.loaded = false)
    {l : Loading} (hload : load.run w.loading = (.ok ⟨⟩, l)) :
    ∃ bindings values n v, variablesFile w.machine = .ok bindings ∧
      fileFields (w.machine.setMissing bindings) = .ok values ∧
      outcome (create givenRegistry givenTally handler? metrics validates warns) w = (.ok n, v) ∧
      (∃ flag, FlagInForce (variableInForce? w.machine bindings "MEDIATOR_METRICS_ENABLED") values
          "mediator.metrics_enabled" flag ∧ (v.hub n).metrics = flagOr metrics flag) ∧
      (∃ flag, FlagInForce (variableInForce? w.machine bindings "MEDIATOR_VALIDATE_ACTORS") values
          "mediator.validate_actors" flag ∧ (v.hub n).validates = flagOr validates flag) ∧
      (∃ flag, FlagInForce (variableInForce? w.machine bindings "MEDIATOR_WARN_UNKNOWN_UNLISTEN") values
          "mediator.warn_unknown_unlisten" flag ∧ (v.hub n).warns = flagOr warns flag) ∧
      (givenTally = none → ∃ limit,
        LimitInForce (variableInForce? w.machine bindings "MEDIATOR_METRICS_MAX_EVENT_NAMES") values
          "mediator.metrics_max_event_names" limit ∧
        (v.tally (v.hub n).tally).limit = (max 1 limit).toNat) := by
  obtain ⟨bindings, values, hbindings, hvalues, hflags, limit, hlimit, hlimitAt⟩ := load_inForce hdistinct hload
  obtain ⟨m, hm, hmAt⟩ := hflags ("MEDIATOR_METRICS_ENABLED", "mediator.metrics_enabled") (by simp [hubFlags])
  obtain ⟨c, hc, hcAt⟩ := hflags ("MEDIATOR_VALIDATE_ACTORS", "mediator.validate_actors") (by simp [hubFlags])
  obtain ⟨s, hs, hsAt⟩ := hflags ("MEDIATOR_WARN_UNKNOWN_UNLISTEN", "mediator.warn_unknown_unlisten")
    (by simp [hubFlags])
  -- the configuration after the load has those values under the keys
  have hflagFrom : ∀ {key b}, l.configuration.value? key = some (.bool b) →
      flagFrom key (.ok l.configuration) = .ok b := by
    intro key b hkey
    rw [flagFrom, hkey]
    rfl
  have hlimitFrom : limitFrom (.ok l.configuration) = .ok (max 1 limit).toNat := by
    rw [limitFrom, hlimitAt]
    rfl
  obtain ⟨n, v, hrun, hmetrics, hvalidates, hwarns, htally⟩ :=
    create_of_answers givenRegistry givenTally handler? metrics validates warns (.loads hloaded hload)
      (hflagFrom hmAt) (hflagFrom hcAt) (hflagFrom hsAt) hlimitFrom
  exact ⟨bindings, values, n, v, hbindings, hvalues, hrun, ⟨m, hm, hmetrics⟩, ⟨c, hc, hvalidates⟩,
    ⟨s, hs, hwarns⟩, fun hgiven => ⟨limit, hlimit, htally hgiven⟩⟩

/-- A world with a variable, further ones in a file of variables, and a settings file. Its variable for the
limit is too small. -/
def Sample.layered : World where
  machine := Settings.Sample.machine
    [("MEDIATOR_CONFIG_FILE", "conf.yaml"), ("MEDIATOR_METRICS_ENABLED", "off"),
      ("MEDIATOR_METRICS_MAX_EVENT_NAMES", "0")]
    [(".env", "MEDIATOR_METRICS_ENABLED=on\nMEDIATOR_VALIDATE_ACTORS=no\n"),
      ("conf.yaml", "mediator:\n  warn_unknown_unlisten: false\n  metrics_max_event_names: 7\n")]

open Settings in
/-- The file of variables turns the counters off, as it comes before the settings file; the limit of the
variable is too small, so that of the settings file counts. -/
theorem create_inForce_layered :
    ∃ n v, outcome (create none none none .none .none .none) Sample.layered = (.ok n, v) ∧
      (v.hub n).metrics = false ∧ (v.hub n).validates = false ∧ (v.hub n).warns = false ∧
      (v.tally (v.hub n).tally).limit = 7 := by
  have hloads : (load.run Sample.layered.loading).1.toBool = true := by decide +kernel
  -- what the file of variables and the settings file say
  have hfile : (variablesFile Sample.layered.machine).toOption =
      some [("MEDIATOR_METRICS_ENABLED", some "on"), ("MEDIATOR_VALIDATE_ACTORS", some "no")] := by
    decide +kernel
  have hfields : (fileFields (Sample.layered.machine.setMissing
      [("MEDIATOR_METRICS_ENABLED", some "on"), ("MEDIATOR_VALIDATE_ACTORS", some "no")])).toOption.map
      (fun values => ((flagAt? values "mediator.warn_unknown_unlisten").toOption,
        (integerAt? values "mediator.metrics_max_event_names").toOption)) =
      some (some (some false), some (some 7)) := by decide +kernel
  obtain ⟨l, hrun⟩ := exists_run_of_toBool hloads
  obtain ⟨bindings, values, n, v, hbindings, hvalues, hcreate, ⟨m, hm, hmetrics⟩, ⟨c, hc, hvalidates⟩,
    ⟨s, hs, hwarns⟩, htally⟩ := create_inForce none none none .none .none .none Services.distinct_standard rfl hrun
  obtain ⟨limit, hlimit, hcap⟩ := htally rfl
  rw [hbindings] at hfile
  obtain rfl := Option.some.inj hfile
  rw [hvalues] at hfields
  obtain ⟨hflag, hinteger⟩ := Prod.mk.inj (Option.some.inj hfields)
  -- the variable for the limit is zero
  have hsmall : ∀ i, (some "0").bind integer? = some i → i < 1 := by
    intro i hi
    obtain rfl : 0 = i := Option.some.inj ((by decide : (some "0").bind integer? = some 0).symm.trans hi)
    decide
  obtain rfl : m = false := hm.unique (.ofVariable (by decide))
  obtain rfl : c = false := hc.unique (.ofVariable (by decide))
  obtain rfl : s = false := hs.unique (.ofFile (by decide) (eq_ok_of_toOption hflag))
  obtain rfl : limit = 7 := hlimit.unique (.ofFile hsmall (eq_ok_of_toOption hinteger))
  exact ⟨n, v, hcreate, hmetrics, hvalidates, hwarns, hcap⟩

/-! ## Settings that cannot be loaded -/

/-- A flag that is looked up ends with a fault that is not held back. -/
theorem outcome_flag_error {f : Fault} (h : w.Answers (.error f)) (hf : f.isSettingsFault = false)
    (key : String) : ∃ v, outcome (flag key .none) w = (.error (.fault f), v) := by
  obtain ⟨v, hv, -⟩ := outcome_flag_none h key
  refine ⟨v, ?_⟩
  rw [hv, flagFrom, if_neg (by simp [hf])]
  rfl

/-- So does the limit of new counters. -/
theorem outcome_nameLimit_error {f : Fault} (h : w.Answers (.error f)) (hf : f.isSettingsFault = false) :
    ∃ v, outcome nameLimit w = (.error (.fault f), v) := by
  obtain ⟨v, hv, -⟩ := outcome_nameLimit h
  refine ⟨v, ?_⟩
  rw [hv, limitFrom, if_neg (by simp [hf])]
  rfl

/-- A hub that looks into settings whose fault is not held back is not made. -/
theorem create_error_of_answers {f : Fault} (h : w.Answers (.error f)) (hf : f.isSettingsFault = false)
    (hlooks : givenTally = none ∨ metrics = .none ∨ validates = .none ∨ warns = .none) :
    ∃ v, outcome (create givenRegistry givenTally handler? metrics validates warns) w =
      (.error (.fault f), v) := by
  unfold create
  obtain ⟨registry, u, hu, h⟩ := chooseRegistry_of_answers h givenRegistry
  rw [outcome_bind_ok hu]
  cases givenTally with
  | none =>
      obtain ⟨v, hv⟩ := outcome_nameLimit_error h hf
      exact ⟨v, outcome_bind_error (outcome_bind_error hv _) _⟩
  | some n =>
      rw [outcome_bind_ok (show outcome (chooseTally (some n)) u = (.ok n, u) from rfl)]
      obtain ⟨handler?, v, hv, h⟩ := install_of_answers h handler?
      rw [outcome_bind_ok hv]
      -- the first flag that is not given is looked up
      by_cases hmetrics : metrics = .none
      · obtain ⟨v', hv'⟩ := outcome_flag_error h hf "mediator.metrics_enabled"
        exact ⟨v', outcome_bind_error (hmetrics ▸ hv') _⟩
      rw [outcome_bind_ok (outcome_flag_given hmetrics _ true)]
      by_cases hvalidates : validates = .none
      · obtain ⟨v', hv'⟩ := outcome_flag_error h hf "mediator.validate_actors"
        exact ⟨v', outcome_bind_error (hvalidates ▸ hv') _⟩
      rw [outcome_bind_ok (outcome_flag_given hvalidates _ true)]
      -- two of the three flags are given, so it is the third one that is not
      have hwarns : warns = .none := by simpa [hmetrics, hvalidates] using hlooks
      obtain ⟨v', hv'⟩ := outcome_flag_error h hf "mediator.warn_unknown_unlisten"
      exact ⟨v', outcome_bind_error (hwarns ▸ hv') _⟩

/-- **Making a hub when the settings cannot be loaded**, before logging is set up. A fault of the settings is
held back: the hub is made, flags that are not given are on and new counters have the built-in limit. Any other
fault ends the making as soon as something is looked up: an error that a reader of files lets out, or an integer
with too many digits, or a home that nobody knows. -/
theorem create_unloadable (hrereads : w.machine.services.Rereads) (hloaded : w.configuration.loaded = false)
    (hsink : w.sink? = none) {f : Fault} {l : Settings.Loading} (hload : Settings.load.run w.loading = (.error f, l)) :
    (f.isSettingsFault = true →
      ∃ n v, outcome (create givenRegistry givenTally handler? metrics validates warns) w = (.ok n, v) ∧
        (v.hub n).metrics = flagOr metrics true ∧ (v.hub n).validates = flagOr validates true ∧
        (v.hub n).warns = flagOr warns true ∧
        (givenTally = none → (v.tally (v.hub n).tally).limit = 1000)) ∧
    (f.isSettingsFault = false →
      Settings.Escapes w.machine f ∧
        (givenTally = none ∨ metrics = .none ∨ validates = .none ∨ warns = .none →
          ∃ v, outcome (create givenRegistry givenTally handler? metrics validates warns) w =
            (.error (.fault f), v))) := by
  have hanswers : w.Answers (.error f) := .fails hloaded hsink hrereads hload
  refine ⟨fun hf => ?_, fun hf => ⟨?_, ?_⟩⟩
  · have hflagFrom : ∀ key, flagFrom key (.error f) = .ok true := fun key => if_pos hf
    have hlimitFrom : limitFrom (.error f) = .ok 1000 := if_pos hf
    exact create_of_answers givenRegistry givenTally handler? metrics validates warns hanswers (hflagFrom _)
      (hflagFrom _) (hflagFrom _) hlimitFrom
  · rcases Settings.load_endsLoad hload with hsettings | hother
    · simp [hf] at hsettings
    · exact hother
  · exact create_error_of_answers givenRegistry givenTally handler? metrics validates warns hanswers hf

/-- A world with a wrong value in its settings file. -/
def Sample.miswritten : World where
  machine := Settings.Sample.machine [("MEDIATOR_CONFIG_FILE", "conf.yaml")]
    [("conf.yaml", "mediator:\n  validate_actors: 3\n")]

/-- The fault of the wrong value is held back: the flag that is given is kept, and the others are on. -/
theorem create_unloadable_miswritten :
    ∃ n v, outcome (create none none none .none (.bool false) .none) Sample.miswritten = (.ok n, v) ∧
      (v.hub n).metrics = true ∧ (v.hub n).validates = false ∧ (v.hub n).warns = true ∧
      (v.tally (v.hub n).tally).limit = 1000 := by
  have hfails : (Settings.faultOf? (Settings.load.run Sample.miswritten.loading).1).any
      (fun f => decide (f.isSettingsFault = true)) = true := by decide +kernel
  obtain ⟨f, l, hrun, hsettings⟩ := Settings.exists_run_of_fault hfails
  obtain ⟨n, v, hcreate, hmetrics, hvalidates, hwarns, htally⟩ :=
    (create_unloadable none none none .none (.bool false) .none Services.rereads_standard rfl rfl hrun).1 hsettings
  exact ⟨n, v, hcreate, hmetrics, hvalidates, hwarns, htally rfl⟩

/-- A world whose settings file is no text. -/
def Sample.undecodable : World where
  machine := (({} : Machine).writeFile (Path.ofText "conf.yaml") [0xFF]).setVariable "MEDIATOR_CONFIG_FILE"
    (some "conf.yaml")

/-- A settings file that is no text keeps hubs from being made. -/
theorem create_stops_undecodable :
    ∃ v, outcome (create none none none .none .none .none) Sample.undecodable =
      (.error (.fault (.outside Services.undecodable)), v) := by
  have hstops : (outcome (create none none none .none .none .none) Sample.undecodable).1 =
      .error (.fault (.outside Services.undecodable)) := rfl
  exact ⟨_, Prod.ext hstops rfl⟩

end Hub

end EventHub
