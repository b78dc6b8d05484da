import EventHub.Proofs.Settings.Finding

/-! # The stages of a load

After it has read the file of variables, a load goes through stages one after another. Each of them finds
something on the machine and assigns at most one setting; a fault ends the load there. `stages` lists them,
and `outcome_load` says that a load comes to what going through them gives (`settle`), so that statements
about loads are statements about a list of findings.

Main statements: `outcome_load` for any load, `load_ok` and `load_error` for what it leaves.
-/

namespace EventHub.Settings

open Load

/-! ## Results taken apart -/

section Results

variable {α β : Type}

theorem eq_ok_of_toOption {x : Except Fault α} {a : α} (h : x.toOption = some a) : x = .ok a := by
  cases x with
  | error f => cases h
  | ok b => exact congrArg _ (Option.some.inj h)

theorem exists_ok_of_toBool {x : Except Fault α} (h : x.toBool = true) : ∃ a, x = .ok a := by
  cases x with
  | error f => cases h
  | ok a => exact ⟨a, rfl⟩

/-- What can be decided of a result shows that there is one. -/
theorem exists_ok_of_any {x : Except Fault α} {p : α → Prop} [DecidablePred p]
    (h : x.toOption.any (fun a => decide (p a)) = true) : ∃ a, x = .ok a ∧ p a := by
  obtain ⟨a, ha, hp⟩ := (Option.any_eq_true _ _).mp h
  exact ⟨a, eq_ok_of_toOption ha, of_decide_eq_true hp⟩

/-- A run that does not fail leaves something. -/
theorem exists_run_of_toBool {r : Except Fault Unit × β} (h : r.1.toBool = true) : ∃ y, r = (.ok ⟨⟩, y) := by
  obtain ⟨⟨⟩, ha⟩ := exists_ok_of_toBool h
  exact ⟨r.2, Prod.ext ha rfl⟩

end Results

/-! ## Assignments -/

/-- A setting with its new value. -/
inductive Assignment where
  | configFile (file? : Option Path)
  | environment (e : Environment)
  | logLevel (level : LogLevel)
  | logJson (flag? : Option Bool)
  | logColors (flag : Bool)
  | logDir (dir? : Option Path)
  | metricsEnabled (flag : Bool)
  | validateActors (flag : Bool)
  | warnUnknown (flag : Bool)
  | maxEventNames (limit : Int)

namespace Assignment

/-- The settings after an assignment. -/
def apply (a : Assignment) (s : Effective) : Effective :=
  match a with
  | configFile file? => { s with configFile := file? }
  | environment e => { s with environment := e }
  | logLevel level => { s with logLevel := level }
  | logJson flag? => { s with logJson := flag? }
  | logColors flag => { s with logColors := flag }
  | logDir dir? => { s with logDir := dir? }
  | metricsEnabled flag => { s with metricsEnabled := flag }
  | validateActors flag => { s with validateActors := flag }
  | warnUnknown flag => { s with warnUnknown := flag }
  | maxEventNames limit => { s with maxEventNames := limit }

/-- The name of the setting. -/
def name : Assignment → String
  | configFile _ => "CONFIG_FILE"
  | environment _ => "ENVIRONMENT"
  | logLevel _ => "LOG_LEVEL"
  | logJson _ => "LOG_JSON"
  | logColors _ => "LOG_COLORS"
  | logDir _ => "LOG_DIR"
  | metricsEnabled _ => "METRICS_ENABLED"
  | validateActors _ => "VALIDATE_ACTORS"
  | warnUnknown _ => "WARN_UNKNOWN_UNLISTEN"
  | maxEventNames _ => "METRICS_MAX_EVENT_NAMES"

/-- Other settings keep their values. -/
theorem find?_listing_apply (a : Assignment) (s : Effective) {other : String} (h : other ≠ a.name) :
    (a.apply s).listing.find? other = s.listing.find? other := by
  have hname : ¬ a.name = other := fun e => h e.symm
  cases a <;> simp_all [apply, name, Effective.listing, OrderedMap.find?, List.find?_cons]

end Assignment

/-! ## Going through stages -/

/-- What a stage of a load finds: a setting that it assigns, or none. -/
abbrev Stage := Finding (Option Assignment)

namespace Finding

/-- What a check of values finds. -/
def lift {α : Type} (x : Except Fault α) : Finding α := ⟨x, [], []⟩

def assigns (a : Assignment) : Stage := lift (.ok (some a))

def skips : Stage := lift (.ok none)

end Finding

/-- The loading after a stage that assigned a setting or none. -/
def Loading.assigned (l : Loading) (a? : Option Assignment) : Loading :=
  { l with
    configuration := { l.configuration with settings := a?.elim id Assignment.apply l.configuration.settings } }

/-- Goes through stages up to the first fault. -/
def settle : List Stage → Loading → Except Fault Unit × Loading
  | [], l => (.ok ⟨⟩, l)
  | x :: xs, l =>
    match x.result with
    | .ok a? => settle xs ((l.noted x.notes x.warnings).assigned a?)
    | .error f => (.error f, l.noted x.notes x.warnings)

theorem settle_of_ok {x : Stage} {a? : Option Assignment} (h : x.result = .ok a?) (xs : List Stage)
    (l : Loading) : settle (x :: xs) l = settle xs ((l.noted x.notes x.warnings).assigned a?) := by
  rw [settle, h]

theorem settle_of_error {x : Stage} {f : Fault} (h : x.result = .error f) (xs : List Stage) (l : Loading) :
    settle (x :: xs) l = (.error f, l.noted x.notes x.warnings) := by
  rw [settle, h]

theorem settle_assigns (a : Assignment) (xs : List Stage) (l : Loading) :
    settle (.assigns a :: xs) l = settle xs (l.assigned (some a)) := by
  rw [settle_of_ok (show (Finding.assigns a).result = .ok (some a) from rfl)]
  exact congrArg (fun l : Loading => settle xs (l.assigned (some a))) l.noted_nil

theorem settle_skips (xs : List Stage) (l : Loading) : settle (.skips :: xs) l = settle xs l := by
  rw [settle_of_ok (show Finding.skips.result = .ok none from rfl)]
  exact congrArg (settle xs) l.noted_nil

/-- On a machine, an action goes through stages and then on as another one does. -/
structure GoesThrough (m : Machine) (act : Load Unit) (xs : List Stage) (rest : Load Unit) : Prop where
  outcome : ∀ l : Loading, l.machine = m →
    Load.outcome act l =
      match settle xs l with
      | (.ok _, l) => Load.outcome rest l
      | (.error f, l) => (.error f, l)

namespace GoesThrough

variable {α : Type} {m : Machine} {act rest : Load Unit} {xs : List Stage}

theorem done (rest : Load Unit) : GoesThrough m rest [] rest where
  outcome := fun _ _ => rfl

/-- What comes first within a stage. -/
theorem before {first : Load α} {x : Finding α} {f : α → Load Unit} {g : α → Stage}
    (h : Finds m first x) (hf : ∀ a, x.result = .ok a → GoesThrough m (f a) (g a :: xs) rest) :
    GoesThrough m (first >>= f) (x.bind g :: xs) rest where
  outcome := fun l hl => by
    have hfirst := h.outcome l hl
    cases hx : x.result with
    | error e =>
        rw [hx] at hfirst
        rw [outcome_bind_error hfirst, Finding.bind_of_error hx]
        rfl
    | ok a =>
        rw [hx] at hfirst
        -- the stage is not over: its notes go before those of what follows
        have hrest := (hf a hx).outcome (l.noted x.notes x.warnings) hl
        rw [outcome_bind_ok hfirst, hrest, Finding.bind_of_ok hx]
        unfold settle
        rw [Loading.noted_noted]

/-- A stage whose finding has parts. -/
theorem parts {β : Type} {x : Finding α} {f : α → Finding β} {g : β → Stage}
    (h : GoesThrough m act ((x.bind fun a => (f a).bind g) :: xs) rest) :
    GoesThrough m act ((x.bind f).bind g :: xs) rest := by
  rwa [Finding.bind_assoc]

/-- A stage ends with its assignment. -/
theorem assigning (a : Assignment) (h : GoesThrough m act xs rest) :
    GoesThrough m (assign a.apply >>= fun _ => act) (.assigns a :: xs) rest where
  outcome := fun l hl => by
    have hact := h.outcome (l.assigned (some a)) hl
    rw [settle_assigns]
    exact hact

theorem skipping (h : GoesThrough m act xs rest) : GoesThrough m act (.skips :: xs) rest where
  outcome := fun l hl => by
    rw [settle_skips]
    exact h.outcome l hl

end GoesThrough

/-! ## What the stages find -/

/-- What a step of a load ends with on a machine. -/
def Load.on {α : Type} (act : Load α) (m : Machine) : Except Fault α := (outcome act ⟨m, {}, []⟩).1

namespace Finding

variable (m : Machine) (values : Fields)

/-- What taking a path from a variable finds. -/
def path (key : String) : Finding (Option Path) :=
  ((Reading.unlessBlank .ofText (m.variableNamed? key)).finding key "" (.text "")).bind fun raw =>
    if raw = "" then lift (.ok none) else (lift ((pathOf raw).on m)).map some

/-- What taking a flag from a variable or from the file finds. -/
def flag (name key : String) (builtIn : Bool) : Finding Bool :=
  (lift (flagAt? values key)).bind fun flag? =>
    let default := flag?.getD builtIn
    (Reading.orAbsent (.ofFlag name (.bool default)) (m.variableNamed? name)).finding name default
      (.bool default)

/-- What taking a flag that may be undecided from a variable or from the file finds. -/
def optionalFlag (name key : String) : Finding (Option Bool) :=
  (lift (flagAt? values key)).bind fun default =>
    ((Reading.orAbsent (.ofFlag name (ofOptionalFlag default)) (m.variableNamed? name)).map some).finding
      name default (ofOptionalFlag default)

/-- What taking an integer, at least one, from a variable or from the file finds. -/
def limit (name key : String) (builtIn : Int) : Finding Int :=
  (lift (integerAt? values key)).bind fun limit? =>
    let default := limit?.getD builtIn
    (Reading.unlessBlank (.ofInteger name (.int default) (some 1)) (m.variableNamed? name)).finding name
      default (.int default)

/-- What taking a text from a variable or from the file finds. -/
def text (name key builtIn : String) : Finding String :=
  (lift (textAt? values key)).bind fun text? =>
    let default := text?.getD builtIn
    (Reading.unlessBlank .ofText (m.variableNamed? name)).finding name default (.text default)

/-- The environment that a text names. -/
def environment (s : String) : Finding Environment :=
  match Environment.ofLabel? s with
  | some e => ⟨.ok e, [], []⟩
  | none => ⟨.ok .development, [], [unknownEnvironment s]⟩

/-- The log level that a text names. -/
def logLevel (s : String) : Finding LogLevel :=
  let name := String.ofList (Text.upper s.toList)
  match LogLevel.ofLabel? name with
  | some level => ⟨.ok level, [], []⟩
  | none =>
    ⟨.ok .info, [.malformed "MEDIATOR_LOG_LEVEL" (invalidLogLevel name)], [invalidLogLevel name]⟩

/-- What taking the log directory from the file finds, where the variable gives none. -/
def fileDir : Stage :=
  (lift (textAt? values "logging.dir")).bind fun
    | some text => (lift ((pathOf text).on m)).bind fun dir => assigns (.logDir (some dir))
    | none => skips

end Finding

open Finding in
/-- The stages that take a setting from a variable or from the file. -/
def settingStages (m : Machine) (values : Fields) : List Stage :=
  [((text m values "MEDIATOR_ENVIRONMENT" "environment" "development").bind environment).bind fun e =>
      assigns (.environment e),
    ((text m values "MEDIATOR_LOG_LEVEL" "logging.level" "INFO").bind logLevel).bind fun level =>
      assigns (.logLevel level),
    (optionalFlag m values "MEDIATOR_LOG_JSON" "logging.json").bind fun flag? => assigns (.logJson flag?),
    (flag m values "MEDIATOR_LOG_COLORS" "logging.colors" true).bind fun flag => assigns (.logColors flag),
    (path m "MEDIATOR_LOG_DIR").bind fun dir? => assigns (.logDir dir?),
    if (path m "MEDIATOR_LOG_DIR").result.toOption.join.isNone then fileDir m values else skips,
    (flag m values "MEDIATOR_METRICS_ENABLED" "mediator.metrics_enabled" true).bind fun flag =>
      assigns (.metricsEnabled flag),
    (flag m values "MEDIATOR_VALIDATE_ACTORS" "mediator.validate_actors" true).bind fun flag =>
      assigns (.validateActors flag),
    (flag m values "MEDIATOR_WARN_UNKNOWN_UNLISTEN" "mediator.warn_unknown_unlisten" true).bind fun flag =>
      assigns (.warnUnknown flag),
    (limit m values "MEDIATOR_METRICS_MAX_EVENT_NAMES" "mediator.metrics_max_event_names" 1000).bind
      fun limit => assigns (.maxEventNames limit)]

/-- The flat values of the settings file, if a variable names one. -/
def fileFields (m : Machine) : Except Fault Fields :=
  match (Finding.path m "MEDIATOR_CONFIG_FILE").result with
  | .ok (some p) => (fileValues p).on m
  | _ => .ok []

/-- The stages of a load. -/
def stages (m : Machine) : List Stage :=
  ((Finding.path m "MEDIATOR_CONFIG_FILE").bind fun file? => .assigns (.configFile file?)) ::
    ((Finding.lift (fileFields m)).bind fun _ => .skips) ::
      settingStages m ((fileFields m).toOption.getD [])

/-! ## Stages are what a load does -/

namespace Finds

variable {m : Machine} {values : Fields}

/-- A step that only looks at the machine comes to what it ends with when nothing is configured. -/
theorem looking {α : Type} {act : Load α} (h : ∃ x, Finds m act (.lift x)) :
    Finds m act (.lift (act.on m)) := by
  obtain ⟨x, hx⟩ := h
  -- what it comes to can be read off any loading on the machine
  have hon : act.on m = x := by
    unfold Load.on
    rw [hx.outcome ⟨m, {}, []⟩ rfl]
    rfl
  rwa [hon]

theorem get_lift {α : Type} {f : Loading → Load α} {act : Load α} (hf : ∀ l : Loading, l.machine = m → f l = act)
    (h : ∃ x, Finds m act (.lift x)) : ∃ x, Finds m (get >>= f) (.lift x) := by
  obtain ⟨x, hx⟩ := h
  exact ⟨x, get_bind hx hf⟩

/-- Expanding a path only looks at the machine. -/
theorem pathOf (s : String) : Finds m (Settings.pathOf s) (.lift ((Settings.pathOf s).on m)) := by
  refine looking ?_
  unfold Settings.pathOf
  dsimp only
  split
  · exact ⟨_, throw _⟩
  · refine get_lift (fun l hl => by rw [hl]) ?_
    split
    · exact ⟨_, pure _⟩
    · exact ⟨_, throw _⟩

/-- Taking a path from a variable. -/
theorem pathVariable (key : String) : Finds m (Settings.pathVariable key) (.path m key) := by
  have htext := textVariable (m := m) key "" Value.text id
  rw [Reading.map_id] at htext
  refine htext.bind fun raw _ => ?_
  split
  · exact pure none
  · exact (pathOf raw).map some

/-- Reading the settings file only looks at the machine. -/
theorem fileValues (p : Path) : Finds m (Settings.fileValues p) (.lift ((Settings.fileValues p).on m)) := by
  refine looking (get_lift (fun l hl => by rw [hl]) ?_)
  dsimp only
  split
  · exact ⟨_, throw _⟩
  · split
    · exact ⟨_, throw _⟩
    · exact ⟨_, throw _⟩
    · exact ⟨_, pure _⟩
    · split
      · exact ⟨_, pure _⟩
      · exact ⟨_, throw _⟩
    · exact ⟨_, throw _⟩

/-- Taking a flag from a variable or from the file. -/
theorem flagSetting (name key : String) (builtIn : Bool) :
    Finds m (Settings.flagSetting values name key builtIn) (.flag m values name key builtIn) := by
  refine (lift _).bind fun flag? _ => ?_
  have hflag := flagVariable (m := m) name (flag?.getD builtIn) Value.bool id
  rwa [Reading.map_id] at hflag

/-- Taking the limit from a variable. -/
theorem limitVariable (name : String) (default : Int) :
    Finds m (Settings.integerVariable name default Value.int id (some 1))
      ((Reading.unlessBlank (.ofInteger name (.int default) (some 1)) (m.variableNamed? name)).finding name
        default (.int default)) := by
  have hlimit := integerVariable (m := m) name default Value.int id (some 1)
  rwa [Reading.map_id] at hlimit

/-- Taking a text from a variable or from the file. -/
theorem textSetting (name key builtIn : String) :
    Finds m (Settings.textSetting values name key builtIn) (.text m values name key builtIn) := by
  refine (lift _).bind fun text? _ => ?_
  have htext := textVariable (m := m) name (text?.getD builtIn) Value.text id
  rwa [Reading.map_id] at htext

/-- Taking the environment that a text names. -/
theorem environmentOf (s : String) : Finds m (Settings.environmentOf s) (.environment s) := by
  unfold Settings.environmentOf Finding.environment
  cases Environment.ofLabel? s with
  | some e => exact pure e
  | none => exact (warn _).bind fun _ _ => pure _

/-- Taking the log level that a text names. -/
theorem logLevelOf (s : String) : Finds m (Settings.logLevelOf s) (.logLevel s) := by
  unfold Settings.logLevelOf Finding.logLevel
  dsimp only
  cases LogLevel.ofLabel? (String.ofList (Text.upper s.toList)) with
  | some level => exact pure level
  | none => exact (Reading.malformed _).finds _ _ fun _ => .none

end Finds

theorem Finding.result_path (m : Machine) (key : String) : (path m key).result = (pathVariable key).on m := by
  unfold Load.on
  rw [(Finds.pathVariable key).outcome ⟨m, {}, []⟩ rfl]

/-- How a load ends that went through its stages. -/
def finish (values : Fields) : Load Unit := do
  configure fun c => { c with values := OrderedMap.insertAll values c.settings.merged }
  report fun r => { r with complete := true }
  configure fun c => { c with loaded := true }

namespace GoesThrough

variable {m : Machine}

/-- The stages of the log directory. -/
theorem logDir {values : Fields} {rest act : Load Unit} {xs : List Stage}
    (h : GoesThrough m act xs rest) :
    GoesThrough m
      (do
        let dir ← pathVariable "MEDIATOR_LOG_DIR"
        assign fun s => { s with logDir := dir }
        if dir.isNone then
          match ← textAt? values "logging.dir" with
          | some text =>
            let dir ← pathOf text
            assign fun s => { s with logDir := some dir }
            act
          | none => act
        else act)
      (((Finding.path m "MEDIATOR_LOG_DIR").bind fun dir? => .assigns (.logDir dir?)) ::
        (if (Finding.path m "MEDIATOR_LOG_DIR").result.toOption.join.isNone then Finding.fileDir m values
          else .skips) :: xs) rest := by
  -- the directory of the variable is assigned first, also when there is none
  refine before (.pathVariable _) fun dir? hdir => assigning (.logDir dir?) ?_
  rw [show (Finding.path m "MEDIATOR_LOG_DIR").result.toOption.join = dir? by rw [hdir]; rfl]
  split
  · refine before (.lift _) fun text? _ => ?_
    cases text? with
    | none => exact skipping h
    | some text => exact before (.pathOf text) fun dir _ => assigning (.logDir (some dir)) h
  · exact skipping h

/-- The stage of the settings file. -/
theorem file {take rest : Fields → Load Unit} {xs : Fields → List Stage} {file? : Option Path}
    (h : ∀ values, GoesThrough m (take values) (xs values) (rest values)) :
    (Finding.path m "MEDIATOR_CONFIG_FILE").result = .ok file? → GoesThrough m
      (match file? with
        | some p => fileValues p >>= take
        | none => pure [] >>= take)
      (((Finding.lift (fileFields m)).bind fun _ => .skips) :: xs ((fileFields m).toOption.getD []))
      (rest ((fileFields m).toOption.getD [])) := by
  intro hfile
  have hfields : fileFields m = file?.elim (.ok []) fun p => (fileValues p).on m := by
    unfold fileFields
    rw [hfile]
    cases file? <;> rfl
  cases file? with
  | none =>
      rw [hfields]
      refine before (.pure []) fun values hvalues => ?_
      cases hvalues
      exact skipping (h [])
  | some p =>
      rw [hfields]
      refine before (.fileValues p) fun values hvalues => ?_
      have hon : (fileValues p).on m = .ok values := hvalues
      rw [show (some p).elim (.ok []) (fun p => (fileValues p).on m) = Except.ok values from hon]
      exact skipping (h values)

end GoesThrough

/-- The bindings of the file of variables. -/
def variablesFile (m : Machine) : Except Fault (OrderedMap String (Option String)) :=
  match m.given.error? with
  | none => .ok m.given.bindings
  | some e => .error (.outside e)

/-- What the file of variables gives, if it can be read. -/
theorem bindings_of_variablesFile {m : Machine} {bindings : OrderedMap String (Option String)}
    (h : variablesFile m = .ok bindings) : m.given.bindings = bindings := by
  unfold variablesFile at h
  split at h
  · exact Except.ok.inj h
  · cases h

/-- A load that begins on a machine, with a new report. -/
def Loading.begun (l : Loading) (m : Machine) : Loading :=
  { l with machine := m, configuration := { l.configuration with report? := some {} } }

/-- Reading the file of variables equips the machine, whether it fails or not. -/
theorem outcome_loadVariables (l : Loading) :
    outcome loadVariables l =
      ((variablesFile l.machine).map fun _ => (), { l with machine := l.machine.equipped }) := by
  unfold loadVariables variablesFile
  rw [outcome_get_bind]
  dsimp only
  rw [outcome_bind_ok (outcome_modify _ l)]
  cases l.machine.given.error? <;> rfl

/-- **A load goes through its stages**, on the machine whose missing variables are set from the file of
variables. -/
theorem outcome_load (l : Loading) :
    outcome load l =
      match variablesFile l.machine with
      | .error f => (.error f, { l with machine := l.machine.equipped })
      | .ok bindings =>
        let m := l.machine.setMissing bindings
        match settle (stages m) (l.begun m) with
        | (.ok _, l) => outcome (finish ((fileFields m).toOption.getD [])) l
        | (.error f, l) => (.error f, l) := by
  -- what follows the file of variables goes through the stages
  obtain ⟨rest, hload, hrest⟩ : ∃ rest : Load Unit,
      load = (do
        loadVariables
        configure fun c => { c with report? := some {} }
        rest) ∧
      ∀ m, GoesThrough m rest (stages m) (finish ((fileFields m).toOption.getD [])) := by
    refine ⟨_, rfl, fun m => ?_⟩
    refine .before (.pathVariable _) fun file? hfile => .assigning (.configFile file?) ?_
    refine .file (fun values => ?_) hfile
    refine .parts (.before (.textSetting ..) fun s _ => ?_)
    refine .before (.environmentOf s) fun e _ => .assigning (.environment e) ?_
    refine .parts (.before (.textSetting ..) fun s _ => ?_)
    refine .before (.logLevelOf s) fun level _ => .assigning (.logLevel level) ?_
    refine .parts (.before (.lift _) fun default _ => ?_)
    refine .before (.flagVariable ..) fun flag? _ => .assigning (.logJson flag?) ?_
    refine .before (.flagSetting ..) fun flag _ => .assigning (.logColors flag) ?_
    refine .logDir ?_
    refine .before (.flagSetting ..) fun flag _ => .assigning (.metricsEnabled flag) ?_
    refine .before (.flagSetting ..) fun flag _ => .assigning (.validateActors flag) ?_
    refine .before (.flagSetting ..) fun flag _ => .assigning (.warnUnknown flag) ?_
    refine .parts (.before (.lift _) fun limit? _ => ?_)
    refine .before (.limitVariable ..) fun limit _ => .assigning (.maxEventNames limit) ?_
    exact .done _
  have hvariables := outcome_loadVariables l
  rw [hload]
  cases hfile : variablesFile l.machine with
  | error f =>
      rw [hfile] at hvariables
      exact outcome_bind_error hvariables _
  | ok bindings =>
      rw [hfile, Machine.equipped, bindings_of_variablesFile hfile] at hvariables
      rw [outcome_bind_ok hvariables]
      exact (hrest _).outcome (l.begun _) rfl

/-! ## What a load comes to -/

/-- A list is gone through if its first element and the others are. -/
theorem mapM_cons_eq_ok {α β : Type} {f : α → Except Fault β} {x : α} {xs : List α} {bs : List β} :
    (x :: xs).mapM f = .ok bs ↔ ∃ b cs, f x = .ok b ∧ xs.mapM f = .ok cs ∧ bs = b :: cs := by
  rw [List.mapM_cons]
  cases f x with
  | error e => simp [Bind.bind, Except.bind]
  | ok b =>
      cases xs.mapM f with
      | error e => simp [Bind.bind, Except.bind]
      | ok cs => simp [Bind.bind, Except.bind, Pure.pure, Except.pure, eq_comm]

/-- What stages assign, or the first fault. -/
def assignments (xs : List Stage) : Except Fault (List (Option Assignment)) := xs.mapM (·.result)

/-- The settings after assignments. -/
def Effective.after (s : Effective) (as : List (Option Assignment)) : Effective :=
  as.foldl (fun s a? => a?.elim s fun a => a.apply s) s

/-- A stage that assigns what it finds, and the others. -/
theorem assignments_assigning {α : Type} {x : Finding α} {g : α → Assignment} {xs : List Stage}
    {as : List (Option Assignment)} (h : assignments ((x.bind fun a => .assigns (g a)) :: xs) = .ok as) :
    ∃ a bs, x.result = .ok a ∧ assignments xs = .ok bs ∧ as = some (g a) :: bs := by
  obtain ⟨a?, bs, hx, hxs, rfl⟩ := mapM_cons_eq_ok.mp h
  obtain ⟨a, ha, hassigns⟩ := Finding.result_bind_eq_ok.mp hx
  cases hassigns
  exact ⟨a, bs, ha, hxs, rfl⟩

/-- Whether stages are gone through is told by what they assign. -/
theorem result_settle (xs : List Stage) (l : Loading) :
    (settle xs l).1 = (assignments xs).map fun _ => () := by
  unfold assignments
  induction xs generalizing l with
  | nil => rfl
  | cons x xs ih =>
      cases hx : x.result with
      | error f =>
          rw [settle_of_error hx, List.mapM_cons, hx]
          rfl
      | ok a? =>
          rw [settle_of_ok hx, ih, List.mapM_cons, hx]
          cases List.mapM (fun y : Stage => y.result) xs <;> rfl

/-- Stages that are gone through assign what they found. -/
theorem settle_ok {xs : List Stage} {l l' : Loading} (h : settle xs l = (.ok ⟨⟩, l')) :
    ∃ as, assignments xs = .ok as ∧ l'.configuration.settings = l.configuration.settings.after as := by
  induction xs generalizing l with
  | nil =>
      cases h
      exact ⟨[], rfl, rfl⟩
  | cons x xs ih =>
      cases hx : x.result with
      | error f =>
          rw [settle_of_error hx] at h
          cases h
      | ok a? =>
          rw [settle_of_ok hx] at h
          -- the later stages assign on top of this one
          obtain ⟨as, has, hsettings⟩ := ih h
          refine ⟨a? :: as, mapM_cons_eq_ok.mpr ⟨a?, as, hx, has, rfl⟩, ?_⟩
          rw [hsettings]
          cases a? <;> rfl

/-- Going through stages changes nothing but settings, the report and the warnings. -/
theorem settle_frame (xs : List Stage) (l : Loading) :
    (settle xs l).2.machine = l.machine ∧
      (settle xs l).2.configuration.values = l.configuration.values ∧
      (settle xs l).2.configuration.loaded = l.configuration.loaded := by
  induction xs generalizing l with
  | nil => exact ⟨rfl, rfl, rfl⟩
  | cons x xs ih =>
      cases hx : x.result with
      | error f =>
          rw [settle_of_error hx]
          exact ⟨rfl, rfl, rfl⟩
      | ok a? =>
          rw [settle_of_ok hx]
          exact ih _

/-- The log directory of the file is assigned if it is there. -/
theorem Finding.fileDir_ok {m : Machine} {values : Fields} {a? : Option Assignment}
    (h : (fileDir m values).result = .ok a?) : a? = none ∨ ∃ dir, a? = some (.logDir (some dir)) := by
  obtain ⟨text?, -, h⟩ := result_bind_eq_ok.mp h
  cases text? with
  | none =>
      cases h
      exact .inl rfl
  | some text =>
      obtain ⟨dir, -, h⟩ := result_bind_eq_ok.mp h
      cases h
      exact .inr ⟨dir, rfl⟩

/-- What the settings are after a load that succeeded, but for the log directory. -/
structure Loaded (m : Machine) (values : Fields) (s : Effective) : Prop where
  configFile : (Finding.path m "MEDIATOR_CONFIG_FILE").result = .ok s.configFile
  environment :
    ((Finding.text m values "MEDIATOR_ENVIRONMENT" "environment" "development").bind
      Finding.environment).result = .ok s.environment
  logLevel :
    ((Finding.text m values "MEDIATOR_LOG_LEVEL" "logging.level" "INFO").bind Finding.logLevel).result =
      .ok s.logLevel
  logJson : (Finding.optionalFlag m values "MEDIATOR_LOG_JSON" "logging.json").result = .ok s.logJson
  logColors :
    (Finding.flag m values "MEDIATOR_LOG_COLORS" "logging.colors" true).result = .ok s.logColors
  metricsEnabled :
    (Finding.flag m values "MEDIATOR_METRICS_ENABLED" "mediator.metrics_enabled" true).result =
      .ok s.metricsEnabled
  validateActors :
    (Finding.flag m values "MEDIATOR_VALIDATE_ACTORS" "mediator.validate_actors" true).result =
      .ok s.validateActors
  warnUnknown :
    (Finding.flag m values "MEDIATOR_WARN_UNKNOWN_UNLISTEN" "mediator.warn_unknown_unlisten" true).result =
      .ok s.warnUnknown
  maxEventNames :
    (Finding.limit m values "MEDIATOR_METRICS_MAX_EVENT_NAMES" "mediator.metrics_max_event_names"
      1000).result = .ok s.maxEventNames

/-- Stages that find no fault assign every setting, so that nothing is left of earlier ones. -/
theorem Loaded.of_assignments {m : Machine} {as : List (Option Assignment)}
    (h : assignments (stages m) = .ok as) :
    ∃ values s', fileFields m = .ok values ∧ Loaded m values s' ∧ ∀ s : Effective, s.after as = s' := by
  -- one stage after another, in the order of the load
  obtain ⟨file?, _, hfile, h₁, rfl⟩ := assignments_assigning h
  obtain ⟨_, _, hfields, h₂, rfl⟩ := mapM_cons_eq_ok.mp h₁
  obtain ⟨values, hvalues, hskips⟩ := Finding.result_bind_eq_ok.mp hfields
  cases hskips
  rw [show fileFields m = .ok values from hvalues] at h₂
  obtain ⟨e, _, he, h₃, rfl⟩ := assignments_assigning h₂
  obtain ⟨level, _, hlevel, h₄, rfl⟩ := assignments_assigning h₃
  obtain ⟨json, _, hjson, h₅, rfl⟩ := assignments_assigning h₄
  obtain ⟨colors, _, hcolors, h₆, rfl⟩ := assignments_assigning h₅
  obtain ⟨dir?, _, hdir, h₇, rfl⟩ := assignments_assigning h₆
  obtain ⟨fileDir, _, hfileDir, h₈, rfl⟩ := mapM_cons_eq_ok.mp h₇
  obtain ⟨metrics, _, hmetrics, h₉, rfl⟩ := assignments_assigning h₈
  obtain ⟨validates, _, hvalidates, h₁₀, rfl⟩ := assignments_assigning h₉
  obtain ⟨warns, _, hwarns, h₁₁, rfl⟩ := assignments_assigning h₁₀
  obtain ⟨limit, _, hlimit, h₁₂, rfl⟩ := assignments_assigning h₁₁
  cases h₁₂
  -- the file may give the log directory, and nothing else, in between
  obtain rfl | ⟨dir, rfl⟩ : fileDir = none ∨ ∃ dir, fileDir = some (.logDir (some dir)) := by
    split at hfileDir
    · exact Finding.fileDir_ok hfileDir
    · cases hfileDir
      exact .inl rfl
  · exact ⟨values, ⟨e, level, json, colors, dir?, metrics, validates, warns, limit, file?⟩, hvalues,
      ⟨hfile, he, hlevel, hjson, hcolors, hmetrics, hvalidates, hwarns, hlimit⟩, fun _ => rfl⟩
  · exact ⟨values, ⟨e, level, json, colors, some dir, metrics, validates, warns, limit, file?⟩, hvalues,
      ⟨hfile, he, hlevel, hjson, hcolors, hmetrics, hvalidates, hwarns, hlimit⟩, fun _ => rfl⟩

/-- **What a load leaves that succeeds**: each setting is what its stage found, and the merged values are
those of the file with the settings in place of them. -/
theorem load_ok {l l' : Loading} (h : outcome load l = (.ok ⟨⟩, l')) :
    ∃ bindings values, variablesFile l.machine = .ok bindings ∧
      l'.machine = l.machine.setMissing bindings ∧ fileFields l'.machine = .ok values ∧
      Loaded l'.machine values l'.configuration.settings ∧
      l'.configuration.values = OrderedMap.insertAll values l'.configuration.settings.merged ∧
      l'.configuration.loaded = true := by
  rw [outcome_load] at h
  cases hvariables : variablesFile l.machine with
  | error f => simp [hvariables] at h
  | ok bindings =>
      simp only [hvariables] at h
      rcases hrun : settle (stages (l.machine.setMissing bindings))
        (l.begun (l.machine.setMissing bindings)) with ⟨f | _, settled⟩
      · simp [hrun] at h
      · rw [hrun] at h
        obtain ⟨as, has, hsettings⟩ := settle_ok hrun
        obtain ⟨values, s', hvalues, hloaded, hafter⟩ := Loaded.of_assignments has
        have hmachine : settled.machine = l.machine.setMissing bindings := by
          have hframe := (settle_frame (stages (l.machine.setMissing bindings))
            (l.begun (l.machine.setMissing bindings))).1
          rwa [hrun] at hframe
        rw [← hafter, ← hsettings, ← hmachine] at hloaded
        rw [hvalues] at h
        cases h
        exact ⟨bindings, values, rfl, hmachine, hmachine ▸ hvalues, hloaded, rfl, rfl⟩

/-- What a load leaves that fails: the file of variables cannot be read, or a stage fails. -/
theorem load_error {l l' : Loading} {f : Fault} (h : outcome load l = (.error f, l')) :
    (variablesFile l.machine = .error f ∧ l' = { l with machine := l.machine.equipped }) ∨
      ∃ bindings, variablesFile l.machine = .ok bindings ∧
        settle (stages (l.machine.setMissing bindings)) (l.begun (l.machine.setMissing bindings)) =
          (.error f, l') := by
  rw [outcome_load] at h
  cases hvariables : variablesFile l.machine with
  | error g =>
      rw [hvariables] at h
      cases h
      exact .inl ⟨rfl, rfl⟩
  | ok bindings =>
      simp only [hvariables] at h
      refine .inr ⟨bindings, rfl, ?_⟩
      split at h
      · cases h
      · rename_i hsettle
        rw [hsettle]
        exact h

/-- A load fails where one of its stages does. -/
theorem load_fails_of_settle {l l' : Loading} {f : Fault} {bindings : OrderedMap String (Option String)}
    (hvariables : variablesFile l.machine = .ok bindings)
    (hsettle : settle (stages (l.machine.setMissing bindings)) (l.begun (l.machine.setMissing bindings)) =
      (.error f, l')) : outcome load l = (.error f, l') := by
  rw [outcome_load]
  simp only [hvariables, hsettle]

/-- A load fails where the file of variables does. -/
theorem load_fails_of_variables {l : Loading} {f : Fault} (h : variablesFile l.machine = .error f) :
    outcome load l = (.error f, { l with machine := l.machine.equipped }) := by
  rw [outcome_load]
  simp only [h]

/-- A load keeps the services, whatever it ends with. -/
theorem load_services {l l' : Loading} {x : Except Fault Unit} (h : outcome load l = (x, l')) :
    l'.machine.services = l.machine.services := by
  cases x with
  | ok _ =>
      obtain ⟨bindings, values, -, hmachine, -⟩ := load_ok h
      rw [hmachine]
      rfl
  | error f =>
      rcases load_error h with ⟨-, rfl⟩ | ⟨bindings, -, hsettle⟩
      · rfl
      · have hframe := (settle_frame (stages (l.machine.setMissing bindings))
          (l.begun (l.machine.setMissing bindings))).1
        rw [hsettle] at hframe
        have hservices := congrArg Machine.services hframe
        exact hservices

/-- A load that fails leaves the merged values and the mark that settings are loaded as they were. -/
theorem load_error_frame {l l' : Loading} {f : Fault} (h : outcome load l = (.error f, l')) :
    l'.configuration.values = l.configuration.values ∧
      l'.configuration.loaded = l.configuration.loaded := by
  rcases load_error h with ⟨-, rfl⟩ | ⟨bindings, -, hsettle⟩
  · exact ⟨rfl, rfl⟩
  · have hframe := (settle_frame (stages (l.machine.setMissing bindings))
      (l.begun (l.machine.setMissing bindings))).2
    rwa [hsettle] at hframe

end EventHub.Settings
