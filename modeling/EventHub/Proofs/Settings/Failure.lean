import EventHub.Proofs.Settings.Stages

/-! # Loads that fail

A load assigns the settings one by one, so that one that fails leaves new values for those that it assigned
before. What a fault tells is how far the load came (`assignedBefore`): a file that cannot be used stops it
before any setting but the path of the file, a value of the wrong type before the setting under its key. The
merged values and the mark that settings are loaded are written at the end only, so a load that fails leaves
them as they were.

Main statement: `load_fault_keeps`.
-/

namespace EventHub.Settings

open Load

/-! ## Faults of the stages -/

/-- A fault about the value that a settings file has under a key: that is of the wrong type, or has too many
digits to be told. -/
def Tells (values : Fields) (key : String) (wanted : SettingType) (f : Fault) : Prop :=
  ∃ v, values.find? key = some v ∧ (f = .wrongSetting key wanted v ∨ v.fits = false ∧ f = .tooManyDigits)

/-- A value of the wrong type is told, if it can be. -/
theorem Tells.of_wrongType {values : Fields} {key : String} {wanted : SettingType} {v : Value}
    (h : values.find? key = some v) : Tells values key wanted (wrongType key wanted v) := by
  refine ⟨v, h, ?_⟩
  unfold wrongType
  cases v.fits with
  | true => exact .inl rfl
  | false => exact .inr ⟨rfl, rfl⟩

/-- A flag of the file fails for its own value only. -/
theorem flagAt?_error {values : Fields} {key : String} {f : Fault} (h : flagAt? values key = .error f) :
    Tells values key .boolean f := by
  unfold flagAt? at h
  split at h
  · cases h
  · rename_i hfound
    split at h
    · cases h
    · split at h
      · cases h
      · cases h
        exact .of_wrongType hfound
    · cases h
      exact .of_wrongType hfound

/-- So does an integer. -/
theorem integerAt?_error {values : Fields} {key : String} {f : Fault}
    (h : integerAt? values key = .error f) : Tells values key .integer f := by
  unfold integerAt? at h
  split at h
  · cases h
  · cases h
  · rename_i hfound
    cases h
    exact .of_wrongType hfound

/-- So does a text. -/
theorem textAt?_error {values : Fields} {key : String} {f : Fault} (h : textAt? values key = .error f) :
    Tells values key .string f := by
  unfold textAt? at h
  split at h
  · cases h
  · cases h
  · rename_i hfound
    cases h
    exact .of_wrongType hfound

/-- A fault of a path that the machine cannot expand: the home directory of a user is not known, or the name is
none. -/
def IsHomeFault (m : Machine) (f : Fault) : Prop :=
  (f = .unknownHome ∨ f = .nullInName) ∧ ∃ s, (pathOf s).on m = .error f

/-- A path fails at the home directory. -/
theorem pathOf_on_error {s : String} {m : Machine} {f : Fault} (h : (pathOf s).on m = .error f) :
    IsHomeFault m f := by
  refine ⟨?_, s, h⟩
  unfold Load.on pathOf at h
  dsimp only at h
  split at h
  · cases h
    exact .inr rfl
  · rw [outcome_get_bind] at h
    split at h
    · cases h
    · cases h
      exact .inl rfl

/-- How a load ends that fails on a machine with no fault of the settings: an error of the reader of variables
or of the reader of settings files is let out, or something in the settings file has too many digits, or a
home directory is asked for that nobody knows. -/
inductive Escapes (m : Machine) : Fault → Prop
  | variables {e : OutsideError} (h : m.given.error? = some e) : Escapes m (.outside e)
  | settings {p : Path} {content : List UInt8} {e : OutsideError}
      (hnamed : (pathVariable "MEDIATOR_CONFIG_FILE").on m.equipped = .ok (some p))
      (hcontent : m.equipped.readFile p = .ok content)
      (hread : m.services.readSettings content = .fails e) : Escapes m (.outside e)
  | longKey {p : Path} {content : List UInt8} {bindings : List (Value × Value)}
      (hnamed : (pathVariable "MEDIATOR_CONFIG_FILE").on m.equipped = .ok (some p))
      (hcontent : m.equipped.readFile p = .ok content)
      (hread : m.services.readSettings content = .value (.dict bindings))
      (hlong : bindingKeysFit bindings = false) : Escapes m .tooManyDigits
  | longValue {values : Fields} {key : String} {v : Value} (hfile : fileFields m.equipped = .ok values)
      (hvalue : values.find? key = some v) (hlong : v.fits = false) : Escapes m .tooManyDigits
  | home {f : Fault} (h : IsHomeFault m.equipped f) : Escapes m f

/-- A load on a machine may end with a fault: of the settings, or another one. -/
def EndsLoad (m : Machine) (f : Fault) : Prop := f.isSettingsFault = true ∨ Escapes m f

/-- The file of variables fails with the error of its reader. -/
theorem variablesFile_error {m : Machine} {f : Fault} (h : variablesFile m = .error f) :
    ∃ e, m.given.error? = some e ∧ f = .outside e := by
  unfold variablesFile at h
  split at h
  · cases h
  · cases h
    exact ⟨_, ‹_›, rfl⟩

/-- What the settings file may end a load with. -/
theorem fileFields_error {m : Machine} {f : Fault} (h : fileFields m.equipped = .error f) :
    (∃ p e, f = .settingsFile p e) ∨
      (Escapes m f ∧ ((∃ e, f = .outside e) ∨ f = .tooManyDigits)) := by
  unfold fileFields at h
  split at h
  · rename_i p hpath
    rw [Finding.result_path] at hpath
    unfold Load.on fileValues at h
    rw [outcome_get_bind] at h
    dsimp only at h
    split at h
    · cases h
      exact .inl ⟨_, _, rfl⟩
    · rename_i content hcontent
      split at h
      · cases h
        exact .inl ⟨_, _, rfl⟩
      · rename_i e hread
        cases h
        exact .inr ⟨.settings hpath hcontent hread, .inl ⟨e, rfl⟩⟩
      · cases h
      · rename_i bindings hread
        split at h
        · cases h
        · rename_i hlong
          cases h
          exact .inr ⟨.longKey hpath hcontent hread ((Bool.not_eq_true _).mp hlong), .inr rfl⟩
      · cases h
        exact .inl ⟨_, _, rfl⟩
  · cases h

namespace Finding

variable {m : Machine} {values : Fields} {name key : String} {f : Fault}

/-- A path that a variable gives fails at the home directory. -/
theorem path_error (h : (path m key).result = .error f) : IsHomeFault m f := by
  rcases result_bind_eq_error.mp h with h | ⟨raw, -, h⟩
  · exact absurd (Reading.fits_ofText _) (Reading.result_finding_eq_error h).1
  · split at h
    · cases h
    · exact pathOf_on_error (result_map_eq_error.mp h)

/-- A flag fails for the value in the file: a variable that is malformed falls back. -/
theorem flag_error {builtIn : Bool} (h : (flag m values name key builtIn).result = .error f) :
    Tells values key .boolean f := by
  rcases result_bind_eq_error.mp h with h | ⟨flag?, -, h⟩
  · exact flagAt?_error h
  · exact absurd (Reading.fits_ofFlag rfl _ _) (Reading.result_finding_eq_error h).1

/-- So does a flag that may be undecided. -/
theorem optionalFlag_error (h : (optionalFlag m values name key).result = .error f) :
    Tells values key .boolean f := by
  rcases result_bind_eq_error.mp h with h | ⟨flag?, -, h⟩
  · exact flagAt?_error h
  · have hfits : (ofOptionalFlag flag?).fits = true := by cases flag? <;> rfl
    exact absurd (Reading.fits_map.mpr (Reading.fits_ofFlag hfits _ _)) (Reading.result_finding_eq_error h).1

/-- A limit is a misfit only where the one of the settings file has too many digits. -/
theorem limit_error (h : (limit m values name key 1000).result = .error f) : Tells values key .integer f := by
  rcases result_bind_eq_error.mp h with h | ⟨limit?, hlimit, h⟩
  · exact integerAt?_error h
  · obtain ⟨hmisfit, rfl⟩ := Reading.result_finding_eq_error h
    have hlong : (Value.int (limit?.getD 1000)).fits = false := by
      by_contra hfits
      exact hmisfit (Reading.fits_ofInteger ((Bool.not_eq_false _).mp hfits) rfl _ _)
    cases limit? with
    | none => exact absurd hlong (by decide +kernel)
    | some i => exact ⟨.int i, find?_of_integerAt?_some hlimit, .inr ⟨hlong, rfl⟩⟩

/-- A text fails for the value in the file. -/
theorem text_error {builtIn : String} (h : (text m values name key builtIn).result = .error f) :
    Tells values key .string f := by
  rcases result_bind_eq_error.mp h with h | ⟨text?, -, h⟩
  · exact textAt?_error h
  · exact absurd (Reading.fits_ofText _) (Reading.result_finding_eq_error h).1

theorem environment_ne_error {s : String} : (environment s).result ≠ .error f := by
  unfold environment
  split <;> simp

theorem logLevel_ne_error {s : String} : (logLevel s).result ≠ .error f := by
  unfold logLevel
  dsimp only
  split <;> simp

/-- The log directory of the file fails for its value, or at the home directory. -/
theorem fileDir_error (h : (fileDir m values).result = .error f) :
    Tells values "logging.dir" .string f ∨ IsHomeFault m f := by
  rcases result_bind_eq_error.mp h with h | ⟨text?, -, h⟩
  · exact .inl (textAt?_error h)
  · cases text? with
    | none => cases h
    | some text =>
        rcases result_bind_eq_error.mp h with h | ⟨dir, -, h⟩
        · exact .inr (pathOf_on_error h)
        · cases h

/-- A stage that assigns what it finds has the faults of its finding. -/
theorem assigning_error {α : Type} {x : Finding α} {g : α → Assignment}
    (h : (x.bind fun a => .assigns (g a)).result = .error f) : x.result = .error f := by
  rcases result_bind_eq_error.mp h with h | ⟨a, -, h⟩
  · exact h
  · cases h

end Finding

/-! ## How far a load came -/

/-- The settings in the order in which a load assigns them, each with the key or the variable at which the
load may fail before. The log directory is assigned from the variable first, also when that is not set. -/
def settingOrder : List (String × String) :=
  [("MEDIATOR_CONFIG_FILE", "CONFIG_FILE"), ("environment", "ENVIRONMENT"), ("logging.level", "LOG_LEVEL"),
    ("logging.json", "LOG_JSON"), ("logging.colors", "LOG_COLORS"), ("MEDIATOR_LOG_DIR", "LOG_DIR"),
    ("logging.dir", "LOG_DIR"), ("mediator.metrics_enabled", "METRICS_ENABLED"),
    ("mediator.validate_actors", "VALIDATE_ACTORS"),
    ("mediator.warn_unknown_unlisten", "WARN_UNKNOWN_UNLISTEN"),
    ("mediator.metrics_max_event_names", "METRICS_MAX_EVENT_NAMES")]

/-- The settings that a load assigns before it comes to a key. -/
def orderedBefore (key : String) : List String := (settingOrder.takeWhile (·.1 ≠ key)).map (·.2)

/-- The settings that a load may have assigned when it ends with a fault. -/
def assignedBefore : Fault → List String
  | .settingsFile .. => orderedBefore "environment"
  | .outside _ => orderedBefore "environment"
  | .wrongSetting key .. => orderedBefore key
  | .tooManyDigits => orderedBefore "mediator.metrics_max_event_names"
  | .unknownHome => orderedBefore "mediator.metrics_enabled"
  | .nullInName => orderedBefore "mediator.metrics_enabled"
  | _ => []

/-- A load on a machine may end with a fault after it assigned some settings. -/
structure Admits (m : Machine) (seen : List String) (f : Fault) : Prop where
  kind : EndsLoad m f
  before : seen ⊆ assignedBefore f

/-- Stages that fail only with faults that admit the settings assigned so far. -/
def Guarded (m : Machine) : List String → List Stage → Prop
  | _, [] => True
  | seen, x :: xs =>
    (∀ f, x.result = .error f → Admits m seen f) ∧
      ∃ names, (∀ a, x.result = .ok (some a) → a.name ∈ names) ∧ Guarded m (seen ++ names) xs

/-- A stage that assigns what it finds, in front of others. -/
theorem Guarded.assigning {α : Type} {m : Machine} {seen : List String} {x : Finding α} {g : α → Assignment}
    {xs : List Stage} (name : String) (hfault : ∀ f, x.result = .error f → Admits m seen f)
    (hname : ∀ a, (g a).name = name) (h : Guarded m (seen ++ [name]) xs) :
    Guarded m seen ((x.bind fun a => .assigns (g a)) :: xs) := by
  refine ⟨fun f hf => hfault f (Finding.assigning_error hf), [name], fun a ha => ?_, h⟩
  · obtain ⟨b, -, hb⟩ := Finding.result_bind_eq_ok.mp ha
    cases hb
    exact List.mem_singleton.mpr (hname b)

/-- **Stages that fail keep the settings** that their fault does not admit. -/
theorem settle_keeps {m : Machine} {xs : List Stage} {seen : List String} {l l' : Loading} {f : Fault}
    (hxs : Guarded m seen xs) (h : settle xs l = (.error f, l')) :
    Admits m seen f ∧ ∀ name ∉ assignedBefore f,
      l'.configuration.settings.listing.find? name = l.configuration.settings.listing.find? name := by
  induction xs generalizing seen l with
  | nil => cases h
  | cons x xs ih =>
      obtain ⟨hfault, names, hnames, hxs⟩ := hxs
      cases hx : x.result with
      | error e =>
          rw [settle_of_error hx] at h
          cases h
          exact ⟨hfault f hx, fun _ _ => rfl⟩
      | ok a? =>
          rw [settle_of_ok hx] at h
          obtain ⟨⟨hkind, hseen⟩, hkept⟩ := ih hxs h
          refine ⟨⟨hkind, fun name hmem => hseen (List.mem_append_left _ hmem)⟩, fun name hout => ?_⟩
          rw [hkept name hout]
          cases a? with
          | none => rfl
          | some a =>
              -- the setting that was assigned is one that the fault admits
              refine a.find?_listing_apply _ fun heq => hout (hseen ?_)
              exact heq ▸ List.mem_append_right _ (hnames a hx)

/-- A fault about a value of the file admits what is assigned before its key. -/
theorem admits_told {m : Machine} {values : Fields} {seen : List String} {key : String} {wanted : SettingType}
    {f : Fault} (hfile : ∀ key v, values.find? key = some v → fileFields m.equipped = .ok values)
    (h : Tells values key wanted f)
    (hseen : seen ⊆ orderedBefore key ∧ seen ⊆ orderedBefore "mediator.metrics_max_event_names") :
    Admits m seen f := by
  obtain ⟨v, hv, rfl | ⟨hlong, rfl⟩⟩ := h
  · exact ⟨.inl rfl, hseen.1⟩
  · exact ⟨.inr (.longValue (hfile key v hv) hv hlong), hseen.2⟩

/-- A fault of a path admits what is assigned before the metrics. -/
theorem admits_home {m : Machine} {seen : List String} {f : Fault} (h : IsHomeFault m.equipped f)
    (hseen : seen ⊆ orderedBefore "mediator.metrics_enabled") : Admits m seen f := by
  refine ⟨.inr (.home h), ?_⟩
  obtain ⟨rfl | rfl, -⟩ := h
  · exact hseen
  · exact hseen

open Finding in
/-- The stages of the settings are guarded, once the settings file was assigned. -/
theorem guarded_settingStages {m : Machine} {values : Fields}
    (hfile : ∀ key v, values.find? key = some v → fileFields m.equipped = .ok values) :
    Guarded m ["CONFIG_FILE"] (settingStages m.equipped values) := by
  -- one stage after another: its faults, and the setting that it assigns
  refine .assigning "ENVIRONMENT" (fun f hf => ?_) (fun _ => rfl) ?_
  · rcases result_bind_eq_error.mp hf with hf | ⟨s, -, hf⟩
    · exact admits_told hfile (text_error hf) (by decide)
    · exact absurd hf environment_ne_error
  refine .assigning "LOG_LEVEL" (fun f hf => ?_) (fun _ => rfl) ?_
  · rcases result_bind_eq_error.mp hf with hf | ⟨s, -, hf⟩
    · exact admits_told hfile (text_error hf) (by decide)
    · exact absurd hf logLevel_ne_error
  refine .assigning "LOG_JSON" (fun f hf => admits_told hfile (optionalFlag_error hf) (by decide))
    (fun _ => rfl) ?_
  refine .assigning "LOG_COLORS" (fun f hf => admits_told hfile (flag_error hf) (by decide)) (fun _ => rfl) ?_
  refine .assigning "LOG_DIR" (fun f hf => admits_home (path_error hf) (by decide)) (fun _ => rfl) ?_
  -- the file is asked for the directory only where the variable gives none
  refine ⟨fun f hf => ?_, ["LOG_DIR"], fun a ha => ?_, ?_⟩
  · split at hf
    · rcases fileDir_error hf with htold | hhome
      · exact admits_told hfile htold (by decide)
      · exact admits_home hhome (by decide)
    · cases hf
  · split at ha
    · rcases fileDir_ok ha with hnone | ⟨dir, hdir⟩
      · cases hnone
      · cases hdir
        exact List.mem_singleton.mpr rfl
    · cases ha
  refine .assigning "METRICS_ENABLED" (fun f hf => admits_told hfile (flag_error hf) (by decide))
    (fun _ => rfl) ?_
  refine .assigning "VALIDATE_ACTORS" (fun f hf => admits_told hfile (flag_error hf) (by decide))
    (fun _ => rfl) ?_
  refine .assigning "WARN_UNKNOWN_UNLISTEN" (fun f hf => admits_told hfile (flag_error hf) (by decide))
    (fun _ => rfl) ?_
  refine .assigning "METRICS_MAX_EVENT_NAMES" (fun f hf => admits_told hfile (limit_error hf) (by decide))
    (fun _ => rfl) trivial

/-- All stages are guarded from the beginning. -/
theorem guarded_stages (m : Machine) : Guarded m [] (stages m.equipped) := by
  refine .assigning "CONFIG_FILE" (fun f hf => ?_) (fun _ => rfl) ?_
  · exact admits_home (Finding.path_error hf) (List.nil_subset _)
  refine ⟨fun f hf => ?_, [], fun a ha => ?_, guarded_settingStages fun key v hv => ?_⟩
  · rcases Finding.result_bind_eq_error.mp hf with hf | ⟨values, -, hf⟩
    · have hseen : ["CONFIG_FILE"] ⊆ orderedBefore "environment" := by decide
      rcases fileFields_error hf with ⟨p, e, rfl⟩ | ⟨hescapes, ⟨e, rfl⟩ | rfl⟩
      · exact ⟨.inl rfl, hseen⟩
      · exact ⟨.inr hescapes, hseen⟩
      · exact ⟨.inr hescapes, by decide⟩
    · cases hf
  · obtain ⟨values, -, ha⟩ := Finding.result_bind_eq_ok.mp ha
    cases ha
  · -- a file that cannot be read has no values
    cases hfields : fileFields m.equipped with
    | error f =>
        rw [hfields] at hv
        cases hv
    | ok values => rfl

/-- **Which faults a load can end with**, and where those come from that are none of the settings. -/
theorem load_endsLoad {l l' : Loading} {f : Fault} (h : outcome load l = (.error f, l')) :
    EndsLoad l.machine f := by
  rcases load_error h with ⟨hvariables, -⟩ | ⟨bindings, hvariables, hsettle⟩
  · obtain ⟨e, he, rfl⟩ := variablesFile_error hvariables
    exact .inr (.variables he)
  · obtain rfl := bindings_of_variablesFile hvariables
    exact (settle_keeps (guarded_stages l.machine) hsettle).1.kind

/-- **A load that fails keeps what it did not come to.** Whatever was loaded before, and whatever variables
and files the machine has: if a load ends with a fault, the merged values and the mark that settings are
loaded are as before, and so is every setting that the load did not assign before it could end with that
fault. A file that cannot be used leaves all settings but the path of the file; a value of the wrong type
leaves the setting under its key and all that come after it, but for the log directory under its own key. -/
theorem load_fault_keeps {l l' : Loading} {f : Fault} (h : load.run l = (.error f, l')) :
    l'.configuration.values = l.configuration.values ∧
      l'.configuration.loaded = l.configuration.loaded ∧
      ∀ name ∉ assignedBefore f,
        l'.configuration.settings.listing.find? name = l.configuration.settings.listing.find? name := by
  obtain ⟨hvalues, hloaded⟩ := load_error_frame h
  refine ⟨hvalues, hloaded, fun name hout => ?_⟩
  rcases load_error h with ⟨-, rfl⟩ | ⟨bindings, hvariables, hsettle⟩
  · rfl
  · obtain rfl := bindings_of_variablesFile hvariables
    exact (settle_keeps (guarded_stages l.machine) hsettle).2 name hout

/-- The fault that something ended with. -/
def faultOf? {α : Type} : Except Fault α → Option Fault
  | .error f => some f
  | .ok _ => none

/-- A run of whose fault something can be decided ends with that fault. -/
theorem exists_run_of_fault {α β : Type} {r : Except Fault α × β} {p : Fault → Prop} [DecidablePred p]
    (h : (faultOf? r.1).any (fun f => decide (p f)) = true) : ∃ f y, r = (.error f, y) ∧ p f := by
  obtain ⟨x, y⟩ := r
  cases x with
  | error f => exact ⟨f, y, rfl, of_decide_eq_true h⟩
  | ok a => cases h

/-- A machine with variables, and with files where the program was started. -/
def Sample.machine (environment files : List (String × String)) : Machine :=
  let m := files.foldl (fun m (path, text) => m.writeFile (Path.ofText path) (encodeText text)) {}
  environment.foldl (fun m (name, value) => m.setVariable name (some value)) m

/-- A load that begins after one on an empty machine. Meanwhile three variables were set, and one that names
a settings file with a wrong value. -/
def Sample.reloading : Loading where
  machine := machine
    [("MEDIATOR_CONFIG_FILE", "conf.yaml"), ("MEDIATOR_ENVIRONMENT", "production"),
      ("MEDIATOR_METRICS_ENABLED", "false"), ("MEDIATOR_WARN_UNKNOWN_UNLISTEN", "false")]
    [("conf.yaml", "mediator:\n  validate_actors: 3\n")]
  configuration := (load.run ⟨{}, {}, []⟩).2.configuration

/-- The second load fails at the flag of the settings file, before it comes to the warnings: that setting is as
before. -/
theorem load_fault_keeps_reloading :
    ∃ f l', load.run Sample.reloading = (.error f, l') ∧ "WARN_UNKNOWN_UNLISTEN" ∉ assignedBefore f ∧
      l'.configuration.loaded = true ∧
      (l'.configuration.settings.listing.find? "WARN_UNKNOWN_UNLISTEN").map Value.plain = some "True" := by
  have hfault : (faultOf? (load.run Sample.reloading).1).any
      (fun f => decide ("WARN_UNKNOWN_UNLISTEN" ∉ assignedBefore f)) = true := by decide +kernel
  have hbefore : Sample.reloading.configuration.loaded = true ∧
      (Sample.reloading.configuration.settings.listing.find? "WARN_UNKNOWN_UNLISTEN").map Value.plain =
        some "True" := by decide +kernel
  obtain ⟨f, l', hrun, hout⟩ := exists_run_of_fault hfault
  obtain ⟨-, hloaded, hkept⟩ := load_fault_keeps hrun
  exact ⟨f, l', hrun, hout, hloaded.trans hbefore.1, by rw [hkept _ hout, hbefore.2]⟩

/-- A load that fails may change settings, so that they disagree with the merged values. -/
theorem failed_load_changes_settings :
    ∃ f l', load.run Sample.reloading = (.error f, l') ∧ f.isSettingsFault = true ∧
      Sample.reloading.configuration.settings.environment = .development ∧
      Sample.reloading.configuration.settings.metricsEnabled = true ∧
      l'.configuration.settings.environment = .production ∧
      l'.configuration.settings.metricsEnabled = false ∧
      (l'.configuration.value? "environment").map Value.plain = some "development" ∧
      (l'.configuration.value? "mediator.metrics_enabled").map Value.plain = some "True" := by
  have hfault : (faultOf? (load.run Sample.reloading).1).any
      (fun f => decide (f.isSettingsFault = true)) = true := by decide +kernel
  have hbefore : Sample.reloading.configuration.settings.environment = .development ∧
      Sample.reloading.configuration.settings.metricsEnabled = true := by decide +kernel
  have hafter : (load.run Sample.reloading).2.configuration.settings.environment = .production ∧
      (load.run Sample.reloading).2.configuration.settings.metricsEnabled = false ∧
      ((load.run Sample.reloading).2.configuration.value? "environment").map Value.plain =
        some "development" ∧
      ((load.run Sample.reloading).2.configuration.value? "mediator.metrics_enabled").map Value.plain =
        some "True" := by decide +kernel
  obtain ⟨f, l', hrun, hsettings⟩ := exists_run_of_fault hfault
  rw [hrun] at hafter
  exact ⟨f, l', hrun, hsettings, hbefore.1, hbefore.2, hafter⟩

end EventHub.Settings
