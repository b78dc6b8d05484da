import EventHub.Proofs.Settings.Variables

/-! # Which source of a setting wins

A setting of the hubs comes from a variable if that holds a value of its type, else from the settings file if
that has the key, and else it is built in. The variable is the one that is set, also when it is blank, and that
of the file of variables only if none is set. `FlagInForce` and `LimitInForce` say so for one setting, and a
load that succeeds leaves those values under the dotted keys.

Main statement: `load_inForce`.
-/

namespace EventHub.Settings

open Load

/-! ## Blank variables -/

/-- No white space is a digit of any script. -/
theorem digitValue?_of_isBlank {c : Char} (h : Text.isBlank c = true) : Text.digitValue? c = none := by
  have hapart : ∀ r ∈ Text.blankRanges, ∀ z ∈ Text.digitZeros, r.2 < z ∨ z + 9 < r.1 := by decide
  obtain ⟨r, hr, hc⟩ := List.any_eq_true.mp h
  obtain ⟨hfirst, hlast⟩ : r.1 ≤ c.toNat ∧ c.toNat ≤ r.2 := by simpa using hc
  unfold Text.digitValue?
  rw [Option.map_eq_none_iff, List.find?_eq_none]
  intro z hz hdigit
  obtain ⟨hzero, hnine⟩ : z ≤ c.toNat ∧ c.toNat ≤ z + 9 := by simpa using hdigit
  rcases hapart r hr z hz with hbelow | habove <;> omega

/-- A blank text is no integer, so that a blank variable does not tell one. -/
theorem integer?_of_isBlankText {raw : String} (h : isBlankText raw = true) : integer? raw = none := by
  have hblank : ∀ c ∈ unpadded raw.toList, Text.isBlank c = true := by
    intro c hc
    have hdropped := List.mem_reverse.mp ((List.dropWhile_sublist _).mem (List.mem_reverse.mp hc))
    exact List.all_eq_true.mp h c ((List.dropWhile_sublist _).mem hdropped)
  unfold integer?
  cases htext : unpadded raw.toList with
  | nil => rfl
  | cons c cs =>
      have hc : Text.isBlank c = true := hblank c (by simp [htext])
      -- the first character is neither a sign nor an underscore nor a digit
      have hne : ∀ d, Text.isBlank d = false → c ≠ d := by
        rintro d hd rfl
        simp [hc] at hd
      have hsign : Num.readSign (c :: cs) = (false, c :: cs) := by
        unfold Num.readSign
        split
        · rename_i hminus
          exact absurd (List.cons.inj hminus).1 (hne '-' (by decide))
        · rename_i hplus
          exact absurd (List.cons.inj hplus).1 (hne '+' (by decide))
        · rfl
      have hdigits : ((c :: cs).filter (· != '_')).mapM Text.digitValue? = none := by
        have hkept : (c != '_') = true := bne_iff_ne.mpr (hne '_' (by decide))
        rw [List.filter_cons, if_pos hkept, List.mapM_cons, digitValue?_of_isBlank hc]
        rfl
      rw [hsign]
      dsimp only
      rw [hdigits]
      split <;> rfl

/-! ## Values in force -/

/-- The value of a variable: the one that is set, or else that of a file of variables. -/
def variableInForce? (m : Machine) (bindings : OrderedMap String (Option String)) (name : String) :
    Option String := (m.variableNamed? name).or (bindings.find? name).join

/-- A variable that is set is in force, whatever the file of variables has. -/
theorem variableInForce?_of_named {m : Machine} {bindings : OrderedMap String (Option String)} {name r : String}
    (h : m.variableNamed? name = some r) : variableInForce? m bindings name = some r := by
  rw [variableInForce?, h]
  rfl

/-- The values in force are those that variables have once the file of variables was read. -/
theorem variableNamed?_inForce {m : Machine} {bindings : OrderedMap String (Option String)}
    (hdistinct : m.services.Distinct) (h : variablesFile m = .ok bindings) (name : String) :
    (m.setMissing bindings).variableNamed? name = variableInForce? m bindings name :=
  m.toSurroundings.variableNamed?_setMissing (nodup_keys_variablesFile hdistinct h) name

/-- A flag is in force: that of the variable, or else of the settings file, or else on. -/
inductive FlagInForce (raw? : Option String) (values : Fields) (key : String) : Bool → Prop
  | ofVariable {flag : Bool} (hvariable : raw?.bind flag? = some flag) :
      FlagInForce raw? values key flag
  | ofFile {flag : Bool} (hvariable : raw?.bind flag? = none)
      (hfile : flagAt? values key = .ok (some flag)) : FlagInForce raw? values key flag
  | builtIn (hvariable : raw?.bind flag? = none) (hfile : values.find? key = none) :
      FlagInForce raw? values key true

/-- A limit is in force: that of the variable if it is at least one, or else of the settings file, or else the
built-in one. -/
inductive LimitInForce (raw? : Option String) (values : Fields) (key : String) : Int → Prop
  | ofVariable {limit : Int} (hvariable : raw?.bind integer? = some limit) (hleast : 1 ≤ limit) :
      LimitInForce raw? values key limit
  | ofFile {limit : Int} (hvariable : ∀ i, raw?.bind integer? = some i → i < 1)
      (hfile : integerAt? values key = .ok (some limit)) : LimitInForce raw? values key limit
  | builtIn (hvariable : ∀ i, raw?.bind integer? = some i → i < 1) (hfile : values.find? key = none) :
      LimitInForce raw? values key 1000

/-- No more than one flag is in force. -/
theorem FlagInForce.unique {raw? : Option String} {values : Fields} {key : String} {a b : Bool}
    (ha : FlagInForce raw? values key a) (hb : FlagInForce raw? values key b) : a = b := by
  cases ha <;> cases hb <;> simp_all [flagAt?]

/-- No more than one limit is in force. -/
theorem LimitInForce.unique {raw? : Option String} {values : Fields} {key : String} {a b : Int}
    (ha : LimitInForce raw? values key a) (hb : LimitInForce raw? values key b) : a = b := by
  cases ha <;> cases hb <;> simp_all [integerAt?]
  all_goals omega

/-- The value of a variable as a flag wins over a default. -/
theorem getD_ofFlag (key : String) (shown : Value) (raw? : Option String) (default : Bool) :
    (Reading.orAbsent (.ofFlag key shown) raw?).getD default = (raw?.bind flag?).getD default := by
  cases raw? with
  | none => rfl
  | some raw =>
      unfold Reading.orAbsent Reading.ofFlag
      dsimp only [Option.bind_some]
      cases flag? raw with
      | some b => rfl
      | none => exact Reading.getD_unlessMisfit ..

/-- The value of a variable as an integer wins over a default, if it is large enough. -/
theorem getD_ofInteger (key : String) (shown : Value) (least : Int) (raw? : Option String)
    (default : Int) :
    (Reading.unlessBlank (.ofInteger key shown (some least)) raw?).getD default =
      ((raw?.bind integer?).filter (least ≤ ·)).getD default := by
  cases raw? with
  | none => rfl
  | some raw =>
      unfold Reading.unlessBlank
      dsimp only [Option.bind_some]
      split
      · -- a blank variable counts as not set, and is no integer either
        rename_i hblank
        rw [integer?_of_isBlankText hblank]
        rfl
      · unfold Reading.ofInteger
        cases integer? raw with
        | none => exact Reading.getD_unlessMisfit ..
        | some i =>
            by_cases hleast : i < least
            · simp [Reading.getD_unlessMisfit, Option.filter, hleast, Int.not_le.mpr hleast]
            · simp [Option.filter, hleast, Int.not_lt.mp hleast]

/-- What the stage of a flag finds is the flag in force. -/
theorem FlagInForce.of_finding {m : Machine} {values : Fields} {name key : String} {flag : Bool}
    (h : (Finding.flag m values name key true).result = .ok flag) :
    FlagInForce (m.variableNamed? name) values key flag := by
  -- the file is read first, so that a wrong value there is a fault even where the variable would win
  obtain ⟨file?, hfile, hflag⟩ := Finding.result_bind_eq_ok.mp h
  obtain ⟨-, rfl⟩ := Reading.result_finding_eq_ok hflag
  rw [getD_ofFlag]
  cases hvariable : (m.variableNamed? name).bind flag? with
  | some flag => exact .ofVariable hvariable
  | none =>
      cases file? with
      | some flag => exact .ofFile hvariable hfile
      | none => exact .builtIn hvariable (find?_of_flagAt?_none hfile)

/-- What the stage of the limit finds is the limit in force. -/
theorem LimitInForce.of_finding {m : Machine} {values : Fields} {name key : String} {limit : Int}
    (h : (Finding.limit m values name key 1000).result = .ok limit) :
    LimitInForce (m.variableNamed? name) values key limit := by
  obtain ⟨file?, hfile, hlimit⟩ := Finding.result_bind_eq_ok.mp h
  obtain ⟨-, rfl⟩ := Reading.result_finding_eq_ok hlimit
  rw [getD_ofInteger]
  cases hvariable : ((m.variableNamed? name).bind integer?).filter (1 ≤ ·) with
  | some limit =>
      obtain ⟨hlimit, hleast⟩ := Option.filter_eq_some_iff.mp hvariable
      exact .ofVariable hlimit (of_decide_eq_true hleast)
  | none =>
      -- a variable with an integer has one below the least
      have hsmall : ∀ i, (m.variableNamed? name).bind integer? = some i → i < 1 := fun i hi =>
        Int.not_le.mp fun hle => Option.filter_eq_none_iff.mp hvariable i hi (decide_eq_true hle)
      cases file? with
      | some limit => exact .ofFile hsmall hfile
      | none => exact .builtIn hsmall (find?_of_integerAt?_none hfile)

/-! ## What a load leaves for hubs -/

/-- The flags of hubs: the variable of each, and its dotted key. -/
def hubFlags : List (String × String) :=
  [("MEDIATOR_METRICS_ENABLED", "mediator.metrics_enabled"),
    ("MEDIATOR_VALIDATE_ACTORS", "mediator.validate_actors"),
    ("MEDIATOR_WARN_UNKNOWN_UNLISTEN", "mediator.warn_unknown_unlisten")]

/-- A setting wins over what the settings file has under its key. -/
theorem value?_of_merged {c : Configuration} {values : Fields} {s : Effective} {key : String} {v : Value}
    (hvalues : c.values = OrderedMap.insertAll values s.merged) (hkey : s.merged.find? key = some v)
    (hv : v ≠ .none) : c.value? key = some v := by
  -- the merged settings have different keys
  have hkeys : s.merged.keys.Nodup := by
    have hlist : s.merged.keys = ["environment", "logging.level", "logging.json", "logging.colors",
        "logging.dir", "mediator.metrics_enabled", "mediator.validate_actors",
        "mediator.warn_unknown_unlisten", "mediator.metrics_max_event_names"] := rfl
    rw [hlist]
    decide
  unfold Configuration.value?
  rw [hvalues, OrderedMap.find?_insertAll hkeys, hkey]
  cases v with
  | none => exact absurd rfl hv
  | _ => rfl

/-- **A load that succeeds leaves the settings of hubs that are in force**, under their dotted keys. -/
theorem load_inForce {l l' : Loading} (hdistinct : l.machine.services.Distinct)
    (h : outcome load l = (.ok ⟨⟩, l')) :
    ∃ bindings values, variablesFile l.machine = .ok bindings ∧
      fileFields (l.machine.setMissing bindings) = .ok values ∧
      (∀ x ∈ hubFlags, ∃ flag, FlagInForce (variableInForce? l.machine bindings x.1) values x.2 flag ∧
        l'.configuration.value? x.2 = some (.bool flag)) ∧
      ∃ limit, LimitInForce (variableInForce? l.machine bindings "MEDIATOR_METRICS_MAX_EVENT_NAMES") values
          "mediator.metrics_max_event_names" limit ∧
        l'.configuration.value? "mediator.metrics_max_event_names" = some (.int limit) := by
  obtain ⟨bindings, values, hvariables, hmachine, hfields, hloaded, hmerged, -⟩ := load_ok h
  have hnamed : ∀ name, l'.machine.variableNamed? name = variableInForce? l.machine bindings name :=
    hmachine ▸ variableNamed?_inForce hdistinct hvariables
  refine ⟨bindings, values, hvariables, hmachine ▸ hfields, fun x hx => ?_,
    l'.configuration.settings.maxEventNames, ?_, value?_of_merged hmerged rfl nofun⟩
  · rw [← hnamed]
    simp only [hubFlags, List.mem_cons, List.not_mem_nil, or_false] at hx
    rcases hx with rfl | rfl | rfl
    · exact ⟨_, .of_finding hloaded.metricsEnabled, value?_of_merged hmerged rfl nofun⟩
    · exact ⟨_, .of_finding hloaded.validateActors, value?_of_merged hmerged rfl nofun⟩
    · exact ⟨_, .of_finding hloaded.warnUnknown, value?_of_merged hmerged rfl nofun⟩
  · rw [← hnamed]
    exact .of_finding hloaded.maxEventNames

/-! ## Looking up -/

/-- A look into loaded settings. -/
theorem outcome_lookup_loaded {l : Loading} (h : l.configuration.loaded = true) (key : String)
    (default : Value) :
    outcome (lookup key default) l = (.ok ((l.configuration.value? key).getD default), l) := by
  unfold lookup ensureLoaded
  rw [outcome_bind, outcome_get_bind, if_pos h]
  rfl

/-- A look into settings that are not loaded loads them first. -/
theorem outcome_lookup_of_load {l l' : Loading} {x : Except Fault Unit}
    (h : l.configuration.loaded = false) (hload : outcome load l = (x, l')) (key : String) (default : Value) :
    outcome (lookup key default) l = (x.map fun _ => (l'.configuration.value? key).getD default, l') := by
  unfold lookup ensureLoaded
  rw [outcome_bind, outcome_get_bind, if_neg (by simp [h]), hload]
  cases x <;> rfl

end EventHub.Settings
