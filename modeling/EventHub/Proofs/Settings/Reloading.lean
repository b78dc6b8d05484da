import EventHub.Proofs.Settings.Malformed

/-! # Loading again

A load that succeeds assigns every setting, replaces the merged values and begins a report of its own, so that
nothing it leaves depends on what was configured before: `outcome_load_eq` tells the configuration from the
machine alone. The machine keeps the variables that the file of variables gave. On that machine a load comes to
the same again, as far as the file of variables sets nothing more (`Services.Rereads`).

Main statement: `load_forgets`.
-/

namespace EventHub.Settings

open Load

/-- A loading that went through stages: with what they noted, warned of and assigned. -/
def Loading.through (l : Loading) (xs : List Stage) (as : List (Option Assignment)) : Loading :=
  let l := l.noted (xs.flatMap (·.notes)) (xs.flatMap (·.warnings))
  { l with configuration := { l.configuration with settings := l.configuration.settings.after as } }

/-- The first stage apart. -/
theorem Loading.through_cons (l : Loading) (x : Stage) (xs : List Stage) (a? : Option Assignment)
    (as : List (Option Assignment)) :
    ((l.noted x.notes x.warnings).assigned a?).through xs as = l.through (x :: xs) (a? :: as) := by
  unfold through noted assigned
  cases a? <;> simp [Effective.after]

/-- Stages without a fault are all gone through, wherever the load stands. -/
theorem settle_eq_through {xs : List Stage} {as : List (Option Assignment)} (h : assignments xs = .ok as)
    (l : Loading) : settle xs l = (.ok ⟨⟩, l.through xs as) := by
  induction xs generalizing as l with
  | nil =>
      cases h
      exact congrArg (Except.ok (), ·) l.noted_nil.symm
  | cons x xs ih =>
      obtain ⟨a?, bs, hx, hxs, rfl⟩ := mapM_cons_eq_ok.mp h
      rw [settle_of_ok hx, ih hxs, Loading.through_cons]

/-- The configuration after a load on a machine, with its settings and the flat values of the file. -/
def loadedConfiguration (m : Machine) (s : Effective) (values : Fields) : Configuration where
  settings := s
  values := OrderedMap.insertAll values s.merged
  loaded := true
  report? := some { Report.noted {} ((stages m).flatMap (·.notes)) with complete := true }

/-- A load on a machine succeeds, with some settings and flat values of the file, once the file of variables is
read, which leaves the machine `ready`. -/
structure Succeeds (m ready : Machine) (s : Effective) (values : Fields) : Prop where
  taken : ∃ bindings, variablesFile m = .ok bindings ∧ m.setMissing bindings = ready
  file : fileFields ready = .ok values
  assigned : ∃ as, assignments (stages ready) = .ok as ∧ ∀ s₀ : Effective, s₀.after as = s

/-- Whether a load succeeds is up to the machine. -/
theorem Succeeds.of_load {l l' : Loading} (h : outcome load l = (.ok ⟨⟩, l')) :
    ∃ s values, Succeeds l.machine l'.machine s values := by
  obtain ⟨bindings, values, hvariables, hmachine, hfile, -⟩ := load_ok h
  rw [outcome_load, hvariables] at h
  dsimp only at h
  rw [← hmachine] at h
  cases has : assignments (stages l'.machine) with
  | error f =>
      have hfault := result_settle (stages l'.machine) (l.begun l'.machine)
      rcases hrun : settle (stages l'.machine) (l.begun l'.machine) with ⟨f' | _, settled⟩
      · simp [hrun] at h
      · simp [hrun, has, Except.map] at hfault
  | ok as =>
      obtain ⟨values', s, hfile', -, hafter⟩ := Loaded.of_assignments has
      exact ⟨s, values', ⟨bindings, hvariables, hmachine.symm⟩, hfile', as, has, hafter⟩

/-- **What a load leaves depends on the machine alone**, but for the warnings that were given before. -/
theorem outcome_load_eq {m ready : Machine} {s : Effective} {values : Fields}
    (h : Succeeds m ready s values) (c : Configuration) (warnings : List String) :
    outcome load ⟨m, c, warnings⟩ =
      (.ok ⟨⟩, ⟨ready, loadedConfiguration ready s values,
        warnings ++ (stages ready).flatMap (·.warnings)⟩) := by
  obtain ⟨⟨bindings, hvariables, rfl⟩, hfile, as, has, hafter⟩ := h
  rw [outcome_load]
  simp only [hvariables, settle_eq_through has, hfile]
  have hreport := foldl_enter ((stages (m.setMissing bindings)).flatMap (·.notes)) {}
  simp only [Loading.through, Loading.noted, Loading.begun, hafter, hreport]
  rfl

/-- On the machine that a load leaves, a load comes to the same. -/
theorem Succeeds.again {m ready : Machine} {s : Effective} {values : Fields} (hrereads : m.services.Rereads)
    (h : Succeeds m ready s values) : Succeeds ready ready s values := by
  obtain ⟨⟨bindings, hvariables, rfl⟩, hfile, hassigned⟩ := h
  exact ⟨variablesFile_again hrereads hvariables, hfile, hassigned⟩

/-- **Loading again forgets the past.** A load succeeds on a machine, from some configuration: whether nothing
was loaded before, or from other variables and files, or loads have failed and left settings of their own.
Then it succeeds on this machine from every configuration, and leaves the same machine, the same
configuration, which is all settings, merged values and the report, and gives the same further warnings.
What is looked up afterwards comes from this configuration without a load. One more load leaves the machine
and the configuration as they are. -/
theorem load_forgets {m : Machine} {c : Configuration} {warnings : List String} {l : Loading}
    (hrereads : m.services.Rereads) (h : load.run ⟨m, c, warnings⟩ = (.ok ⟨⟩, l)) :
    ∃ more, l.warnings = warnings ++ more ∧
      (∀ c' warnings', load.run ⟨m, c', warnings'⟩ =
        (.ok ⟨⟩, ⟨l.machine, l.configuration, warnings' ++ more⟩)) ∧
      ensureLoaded.run l = (.ok ⟨⟩, l) ∧
      (∀ key default, (lookup key default).run l = (.ok ((l.configuration.value? key).getD default), l)) ∧
      load.run l = (.ok ⟨⟩, { l with warnings := l.warnings ++ more }) := by
  obtain ⟨s, values, hsucceeds⟩ := Succeeds.of_load h
  have hl : l = ⟨l.machine, loadedConfiguration l.machine s values,
      warnings ++ (stages l.machine).flatMap (·.warnings)⟩ :=
    (Prod.mk.inj (h.symm.trans (outcome_load_eq hsucceeds c warnings))).2
  have hconfiguration : l.configuration = loadedConfiguration l.machine s values :=
    congrArg Loading.configuration hl
  have hloaded : l.configuration.loaded = true := congrArg Configuration.loaded hconfiguration
  refine ⟨(stages l.machine).flatMap (·.warnings), congrArg Loading.warnings hl, fun c' warnings' => ?_, ?_,
    fun key default => outcome_lookup_loaded hloaded key default, ?_⟩
  · rw [hconfiguration]
    exact outcome_load_eq hsucceeds c' warnings'
  · change outcome ensureLoaded l = _
    unfold ensureLoaded
    rw [outcome_get_bind, if_pos hloaded]
    rfl
  · have hagain := outcome_load_eq (hsucceeds.again hrereads) l.configuration l.warnings
    rw [← hconfiguration] at hagain
    exact hagain

/-- A machine with a file of variables that names a settings file, and with an unknown log level. -/
def Sample.mended : Machine :=
  machine [("MEDIATOR_LOG_LEVEL", "loud")]
    [(".env", "MEDIATOR_CONFIG_FILE=conf.yaml\nMEDIATOR_WARN_UNKNOWN_UNLISTEN=off\n"),
      ("conf.yaml", "environment: testing\nlogging:\n  dir: logs\n")]

/-- A configuration that a failed load has left half-updated. -/
def Sample.halfUpdated : Configuration := (load.run Sample.reloading).2.configuration

/-- The half-updated configuration leaves no trace in the next one. -/
theorem load_forgets_halfUpdated :
    Sample.halfUpdated.settings.environment = .production ∧
    ∃ l, load.run ⟨Sample.mended, Sample.halfUpdated, []⟩ = (.ok ⟨⟩, l) ∧
      load.run ⟨Sample.mended, {}, []⟩ = (.ok ⟨⟩, l) ∧
      l.configuration.settings.environment = .testing ∧ l.warnings.length = 1 := by
  have hbefore : Sample.halfUpdated.settings.environment = .production := by decide +kernel
  have hloads : (load.run ⟨Sample.mended, Sample.halfUpdated, []⟩).1.toBool = true ∧
      (load.run ⟨Sample.mended, Sample.halfUpdated, []⟩).2.configuration.settings.environment = .testing ∧
      (load.run ⟨Sample.mended, Sample.halfUpdated, []⟩).2.warnings.length = 1 := by decide +kernel
  obtain ⟨l, hrun⟩ := exists_run_of_toBool hloads.1
  rw [hrun] at hloads
  obtain ⟨more, hmore, hsame, -⟩ := load_forgets Services.rereads_standard hrun
  refine ⟨hbefore, l, hrun, ?_, hloads.2⟩
  rw [hsame {} [], ← hmore]

end EventHub.Settings
