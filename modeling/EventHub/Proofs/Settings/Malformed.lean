import EventHub.Proofs.Settings.Precedence
import EventHub.Proofs.Settings.Types
import Mathlib.Data.List.Nodup

/-! # Malformed variables

A variable says nothing about its setting, or something malformed, or a value (`Kind.tells`). Where it says
nothing, the setting is what the settings file has, or else built in. A malformed flag or limit is passed over in
the same way and noted in the report. The two settings that have names go another way: with a malformed variable
the log level is `INFO` and the environment `development`, whatever the file has, and an unknown environment is
not noted (`unknown_environment_unnoted`).

The notes of a load are those of its stages (`load_notes`), and each stage notes no variable but its own.

Main statement: `malformed_variables_fall_back`.
-/

namespace EventHub.Settings

open Load

/-! ## What variables say -/

/-- What a variable says about a setting. -/
inductive Told where
  | nothing
  | malformed
  | value (v : Value)

/-- How the value of a setting is written. -/
inductive Kind where
  | environment
  | logLevel
  | flag
  | limit
deriving DecidableEq

/-- A text without white space around it. -/
def trimmed (s : String) : String := String.ofList (Text.trim s.toList)

namespace Kind

/-- The value that a text spells. -/
def ofText? : Kind → String → Option Value
  | environment, s => (Environment.ofLabel? s).map fun e => .text e.label
  | logLevel, s => (LogLevel.ofLabel? (String.ofList (Text.upper s.toList))).map fun level => .text level.label
  | flag, s => (flag? s).map .bool
  | limit, s => ((integer? s).filter (1 ≤ ·)).map .int

/-- The value that a variable spells. White space around a name does not count. -/
def ofVariable? (k : Kind) (raw : String) : Option Value :=
  match k with
  | environment | logLevel => k.ofText? (trimmed raw)
  | flag | limit => k.ofText? raw

/-- The value of a settings file, where it is well formed. -/
def ofValue? : Kind → Value → Option Value
  | environment, .text s => environment.ofText? s
  | logLevel, .text s => logLevel.ofText? s
  | flag, .text s => flag.ofText? s
  | flag, .bool b => some (.bool b)
  | limit, .int i => some (.int i)
  | _, _ => none

/-- What a variable says. A blank one says nothing, but as a flag it is malformed. -/
def tells (k : Kind) : Option String → Told
  | none => .nothing
  | some raw =>
    match k.ofVariable? raw with
    | some v => .value v
    | none => if isBlankText raw && k ≠ .flag then .nothing else .malformed

theorem tells_value {k : Kind} {raw : String} {v : Value} (h : k.ofVariable? raw = some v) :
    k.tells (some raw) = .value v := by
  unfold tells
  simp only [h]

theorem tells_malformed {k : Kind} {raw : String} (h : (k.ofVariable? raw).isNone = true)
    (hblank : isBlankText raw = false) : k.tells (some raw) = .malformed := by
  unfold tells
  simp [Option.isNone_iff_eq_none.mp h, hblank]

/-- The setting that a load takes from what a variable says, over a fallback. -/
def setting (k : Kind) (fallback : Value) : Told → Value
  | .nothing => fallback
  | .value v => v
  | .malformed =>
    match k with
    | environment => .text "development"
    | logLevel => .text "INFO"
    | flag | limit => fallback

/-- Whether a load notes what a variable says as malformed. -/
def notes (k : Kind) : Told → Bool
  | .malformed => k ≠ environment
  | _ => false

end Kind

/-- A setting that a variable may give: the name of the variable, that of the setting, the dotted key of the
settings file, how its values are written, and its built-in value. -/
structure Variable where
  name : String
  setting : String
  key : String
  kind : Kind
  builtIn : Value

/-- The settings that variables may give, but for the paths. -/
def variableTable : List Variable :=
  [⟨"MEDIATOR_ENVIRONMENT", "ENVIRONMENT", "environment", .environment, .text "development"⟩,
    ⟨"MEDIATOR_LOG_LEVEL", "LOG_LEVEL", "logging.level", .logLevel, .text "INFO"⟩,
    ⟨"MEDIATOR_LOG_JSON", "LOG_JSON", "logging.json", .flag, .none⟩,
    ⟨"MEDIATOR_LOG_COLORS", "LOG_COLORS", "logging.colors", .flag, .bool true⟩,
    ⟨"MEDIATOR_METRICS_ENABLED", "METRICS_ENABLED", "mediator.metrics_enabled", .flag, .bool true⟩,
    ⟨"MEDIATOR_VALIDATE_ACTORS", "VALIDATE_ACTORS", "mediator.validate_actors", .flag, .bool true⟩,
    ⟨"MEDIATOR_WARN_UNKNOWN_UNLISTEN", "WARN_UNKNOWN_UNLISTEN", "mediator.warn_unknown_unlisten", .flag,
      .bool true⟩,
    ⟨"MEDIATOR_METRICS_MAX_EVENT_NAMES", "METRICS_MAX_EVENT_NAMES", "mediator.metrics_max_event_names", .limit,
      .int 1000⟩]

/-- The setting where the variable is not set: what the settings file has, or else the built-in value. -/
def Variable.fallback (x : Variable) (values : Fields) : Value :=
  ((values.find? x.key).bind x.kind.ofValue?).getD x.builtIn

/-- A settings file has well-formed values under the keys of the settings. -/
def WellFormed (values : Fields) : Prop :=
  ∀ x ∈ variableTable, ∀ v, values.find? x.key = some v → (x.kind.ofValue? v).isSome = true

instance (values : Fields) : Decidable (WellFormed values) :=
  decidable_of_iff
    (∀ x ∈ variableTable, (values.find? x.key).all (fun v => (x.kind.ofValue? v).isSome) = true)
    (forall₂_congr fun x _ => by cases values.find? x.key <;> simp)

/-! ## Notes of malformed variables -/

/-- The variable that is noted as malformed. -/
def Note.malformed? : Note → Option String
  | malformed key _ => some key
  | source _ _ _ => none

/-- A report that has more notes. -/
def Report.noted (r : Report) (notes : List Note) : Report := notes.foldl Note.enter r

/-- A variable is noted in the report if it was, or if it is among the notes. -/
theorem Report.mem_malformed_noted {r : Report} {notes : List Note} {key : String} :
    key ∈ (r.noted notes).malformed.keys ↔ key ∈ r.malformed.keys ∨ key ∈ notes.filterMap Note.malformed? := by
  induction notes generalizing r with
  | nil => simp [noted]
  | cons n notes ih =>
      have hcons : r.noted (n :: notes) = (n.enter r).noted notes := rfl
      rw [hcons, ih]
      cases n with
      | source other fromVariable default =>
          have hsame : (Note.enter r (.source other fromVariable default)).malformed = r.malformed := by
            unfold Note.enter Report.noteSource
            dsimp only
            split <;> rfl
          simp [hsame, Note.malformed?]
      | malformed other error =>
          have hinsert : (Note.enter r (.malformed other error)).malformed.keys =
              (r.malformed.insert other error).keys := rfl
          rw [hinsert, OrderedMap.mem_keys_insert]
          simp [Note.malformed?, or_assoc]

/-- Notes enter the report one after another. -/
theorem foldl_enter (notes : List Note) (r : Report) :
    notes.foldl (fun r? n => some (Note.enter (r?.getD {}) n)) (some r) = some (r.noted notes) := by
  induction notes generalizing r with
  | nil => rfl
  | cons n notes ih => exact ih (n.enter r)

/-- Stages that are gone through leave their notes in the report. -/
theorem settle_notes {xs : List Stage} {l l' : Loading} {r : Report} (h : settle xs l = (.ok ⟨⟩, l'))
    (hr : l.configuration.report? = some r) :
    l'.configuration.report? = some (r.noted (xs.flatMap (·.notes))) := by
  induction xs generalizing l r with
  | nil =>
      cases h
      exact hr
  | cons x xs ih =>
      cases hx : x.result with
      | error f =>
          rw [settle_of_error hx] at h
          cases h
      | ok a? =>
          rw [settle_of_ok hx] at h
          have hstage : ((l.noted x.notes x.warnings).assigned a?).configuration.report? =
              some (r.noted x.notes) := by
            rw [← foldl_enter, ← hr]
            rfl
          rw [ih h hstage, List.flatMap_cons]
          unfold Report.noted
          rw [List.foldl_append]

/-- **The report of a load that succeeds** notes as malformed what its stages do. -/
theorem load_notes {l l' : Loading} (h : outcome load l = (.ok ⟨⟩, l')) :
    ∃ r, l'.configuration.report? = some r ∧ ∀ key, key ∈ r.malformed.keys ↔
      key ∈ ((stages l'.machine).flatMap (·.notes)).filterMap Note.malformed? := by
  obtain ⟨bindings, values, hvariables, hmachine, -⟩ := load_ok h
  rw [outcome_load, hvariables] at h
  rcases hrun : settle (stages (l.machine.setMissing bindings)) (l.begun (l.machine.setMissing bindings)) with
    ⟨f | _, settled⟩
  · simp [hrun] at h
  · have hreport := settle_notes hrun rfl
    simp only [hrun] at h
    cases h
    refine ⟨{ Report.noted {} ((stages (l.machine.setMissing bindings)).flatMap (·.notes)) with
      complete := true }, ?_, fun key => ?_⟩
    · change some { settled.configuration.report?.getD {} with complete := true } = _
      rw [hreport]
      rfl
    · rw [hmachine]
      exact Report.mem_malformed_noted.trans (by simp [OrderedMap.keys])

/-! ## What the stages note -/

namespace Finding

variable {α β : Type}

/-- The variables that a finding notes as malformed. -/
def malformed (x : Finding α) : List String := x.notes.filterMap Note.malformed?

theorem malformed_bind {x : Finding α} {a : α} (h : x.result = .ok a) (f : α → Finding β) :
    (x.bind f).malformed = x.malformed ++ (f a).malformed := by
  rw [bind_of_ok h]
  exact List.filterMap_append

/-- A second part that notes nothing. -/
theorem malformed_bind_silent (x : Finding α) {f : α → Finding β} (hf : ∀ a, (f a).malformed = []) :
    (x.bind f).malformed = x.malformed := by
  cases hx : x.result with
  | error e => rw [bind_of_error hx]; rfl
  | ok a => rw [malformed_bind hx, hf, List.append_nil]

/-- The end of a stage notes nothing. -/
theorem malformed_assigning (x : Finding α) (g : α → Assignment) :
    (x.bind fun a => .assigns (g a)).malformed = x.malformed := x.malformed_bind_silent fun _ => rfl

end Finding

namespace Reading

variable {α : Type}

/-- What a reading tells. -/
def told (toValue : α → Value) : Reading α → Told
  | absent => .nothing
  | malformed _ => .malformed
  | misfit => .malformed
  | value a => .value (toValue a)

theorem told_unlessMisfit (toValue : α → Value) (fits : Bool) (error : String) :
    (unlessMisfit fits error).told toValue = .malformed := by
  cases fits <;> rfl

/-- A variable is noted if it is malformed. -/
theorem malformed_finding {x : Reading α} (hfits : x.Fits) (key : String) (default : α) (shown : Value)
    (toValue : α → Value) :
    (x.finding key default shown).malformed = if x.told toValue matches .malformed then [key] else [] := by
  cases x with
  | misfit => exact hfits.elim
  | _ => rfl

/-- A flag or a limit is what the variable tells, or else the default. -/
theorem getD_told (toValue : α → Value) (default : α) (x : Reading α) {k : Kind} (hk : k = .flag ∨ k = .limit) :
    toValue (x.getD default) = k.setting (toValue default) (x.told toValue) := by
  rcases hk with rfl | rfl <;> cases x <;> rfl

/-- A flag is told as its variable spells it. -/
theorem told_ofFlag (key : String) (shown : Value) (raw? : Option String) :
    (orAbsent (.ofFlag key shown) raw?).told .bool = Kind.flag.tells raw? := by
  cases raw? with
  | none => rfl
  | some raw =>
      have hspelled : Kind.flag.ofVariable? raw = (flag? raw).map .bool := rfl
      unfold orAbsent ofFlag Kind.tells
      simp only [hspelled]
      cases flag? raw with
      | some b => rfl
      | none => simp [told_unlessMisfit]

theorem told_map {β : Type} (f : α → β) (toValue : β → Value) (x : Reading α) :
    (x.map f).told toValue = x.told (toValue ∘ f) := by
  cases x <;> rfl

/-- A limit is told as its variable spells it, if it is at least one. -/
theorem told_ofInteger (key : String) (shown : Value) (raw? : Option String) :
    (unlessBlank (.ofInteger key shown (some 1)) raw?).told .int = Kind.limit.tells raw? := by
  cases raw? with
  | none => rfl
  | some raw =>
      have hspelled : Kind.limit.ofVariable? raw = ((integer? raw).filter (1 ≤ ·)).map .int := rfl
      unfold unlessBlank Kind.tells
      simp only [hspelled]
      cases hblank : isBlankText raw with
      | true => simp [integer?_of_isBlankText hblank, told]
      | false =>
          unfold ofInteger
          cases integer? raw with
          | none => exact told_unlessMisfit ..
          | some i =>
              by_cases hleast : i < 1
              · simp [told_unlessMisfit, Option.filter, hleast, Int.not_le.mpr hleast]
              · simp [told, Option.filter, hleast, Int.not_lt.mp hleast]

end Reading

/-! ## What the stages find -/

/-- A stage finds the setting that a variable tells over a fallback, and notes the variable if it is malformed. -/
structure Finding.Takes {α : Type} (x : Finding α) (v : Value) (k : Kind) (name : String) (raw? : Option String)
    (fallback : Value) : Prop where
  setting : v = k.setting fallback (k.tells raw?)
  noted : x.malformed = if k.notes (k.tells raw?) then [name] else []

variable {m : Machine} {values : Fields} {name key : String}

/-- A flag of the file is the value that is well formed. -/
theorem flagAt?_fallback {b? : Option Bool} (h : flagAt? values key = .ok b?) :
    (values.find? key).bind Kind.flag.ofValue? = b?.map .bool := by
  unfold flagAt? at h
  cases hfound : values.find? key with
  | none =>
      rw [hfound] at h
      cases h
      rfl
  | some v =>
      rw [hfound] at h
      cases v with
      | bool b =>
          cases h
          rfl
      | text s =>
          have hspelled : Kind.flag.ofValue? (.text s) = (flag? s).map .bool := rfl
          rw [Option.bind_some, hspelled]
          cases hflag : flag? s with
          | none => simp [hflag] at h
          | some b =>
              simp only [hflag] at h
              cases h
              rfl
      | _ => cases h

/-- So is an integer of the file. -/
theorem integerAt?_fallback {i? : Option Int} (h : integerAt? values key = .ok i?) :
    (values.find? key).bind Kind.limit.ofValue? = i?.map .int := by
  unfold integerAt? at h
  cases hfound : values.find? key with
  | none =>
      rw [hfound] at h
      cases h
      rfl
  | some v =>
      rw [hfound] at h
      cases v with
      | int i =>
          cases h
          rfl
      | _ => cases h

namespace Finding

/-- A flag or a limit that a variable may give over what the file gives. -/
theorem takes_reading {γ α : Type} {file : Except Fault γ} {default : γ → α} {r : γ → Reading α}
    {toValue : α → Value} {k : Kind} {raw? : Option String} {fallback : Value} (hk : k = .flag ∨ k = .limit)
    (htold : ∀ c, (r c).told toValue = k.tells raw?)
    (hfallback : ∀ c, file = .ok c → toValue (default c) = fallback) {a : α}
    (h : ((lift file).bind fun c => (r c).finding name (default c) (toValue (default c))).result = .ok a) :
    ((lift file).bind fun c => (r c).finding name (default c) (toValue (default c))).Takes (toValue a) k name
      raw? fallback := by
  obtain ⟨c, hfile, ha⟩ := result_bind_eq_ok.mp h
  obtain ⟨hfits, rfl⟩ := Reading.result_finding_eq_ok ha
  constructor
  · rw [← hfallback c hfile, ← htold c]
    exact Reading.getD_told toValue _ _ hk
  · rw [malformed_bind hfile, Reading.malformed_finding hfits _ _ _ toValue, htold]
    rcases hk with rfl | rfl <;> cases Kind.tells _ raw? <;> rfl

/-- A flag is taken from the variable, or else from the file. -/
theorem takes_flag {b builtIn : Bool} (h : (flag m values name key builtIn).result = .ok b) :
    (flag m values name key builtIn).Takes (.bool b) .flag name (m.variableNamed? name)
      (((values.find? key).bind Kind.flag.ofValue?).getD (.bool builtIn)) := by
  refine takes_reading (.inl rfl) (fun _ => Reading.told_ofFlag ..) (fun file? hfile => ?_) h
  rw [flagAt?_fallback hfile]
  cases file? <;> rfl

/-- So is a flag that may be undecided. -/
theorem takes_optionalFlag {b? : Option Bool} (h : (optionalFlag m values name key).result = .ok b?) :
    (optionalFlag m values name key).Takes (ofOptionalFlag b?) .flag name (m.variableNamed? name)
      (((values.find? key).bind Kind.flag.ofValue?).getD .none) := by
  -- the variable gives a flag, and never leaves it open
  refine takes_reading (.inl rfl)
    (fun _ => (Reading.told_map some ofOptionalFlag _).trans (Reading.told_ofFlag ..)) (fun file? hfile => ?_) h
  rw [flagAt?_fallback hfile]
  cases file? <;> rfl

/-- So is a limit. -/
theorem takes_limit {i builtIn : Int} (h : (limit m values name key builtIn).result = .ok i) :
    (limit m values name key builtIn).Takes (.int i) .limit name (m.variableNamed? name)
      (((values.find? key).bind Kind.limit.ofValue?).getD (.int builtIn)) := by
  refine takes_reading (.inr rfl) (fun _ => Reading.told_ofInteger ..) (fun file? hfile => ?_) h
  rw [integerAt?_fallback hfile]
  cases file? <;> rfl

/-- A text is never malformed. -/
theorem malformed_ofText (raw? : Option String) (default : String) (shown : Value) :
    ((Reading.unlessBlank .ofText raw?).finding name default shown).malformed = [] := by
  rw [Reading.malformed_finding (Reading.fits_ofText raw?) _ _ _ .text]
  cases raw? with
  | none => rfl
  | some raw =>
      unfold Reading.unlessBlank
      dsimp only
      split <;> rfl

theorem malformed_text (builtIn : String) : (text m values name key builtIn).malformed = [] :=
  malformed_bind_silent _ fun _ => malformed_ofText ..

theorem malformed_path (name : String) : (path m name).malformed = [] := by
  refine (malformed_bind_silent _ fun raw => ?_).trans (malformed_ofText ..)
  split <;> rfl

/-- Taking the log directory from the file notes nothing. -/
theorem malformed_fileDir : (fileDir m values).malformed = [] := by
  refine malformed_bind_silent _ fun text? => ?_
  cases text? with
  | none => rfl
  | some text => exact malformed_assigning _ _

end Finding

/-- Nothing is left of a blank text without its white space. -/
theorem trimmed_of_isBlankText {raw : String} (h : isBlankText raw = true) : trimmed raw = "" := by
  have hdropped : raw.toList.dropWhile Text.isBlank = [] :=
    List.dropWhile_eq_nil_iff.mpr fun c hc => List.all_eq_true.mp h c hc
  unfold trimmed Text.trim Text.trimEnd Text.trimStart
  rw [hdropped]
  rfl

/-- A kind of settings that have names, with the step of a load that takes the one a text names. -/
structure Kind.Named {α : Type} (k : Kind) (name : String) (toValue : α → Value) (named : String → Finding α) :
    Prop where
  ofVariable : ∀ raw, k.ofVariable? raw = k.ofText? (trimmed raw)
  ofFile : ∀ v, (k.ofValue? v).isSome = true → ∃ s, v = .text s ∧ k.ofValue? v = k.ofText? s
  ofEmpty : k.ofText? "" = none
  kind : k ≠ .flag
  known : ∀ {s v a}, k.ofText? s = some v → (named s).result = .ok a →
    toValue a = v ∧ (named s).malformed = []
  unknown : ∀ {s a} (fallback : Value), k.ofText? s = none → (named s).result = .ok a →
    toValue a = k.setting fallback .malformed ∧ (named s).malformed = if k.notes .malformed then [name] else []

/-- Environments are named so; one that is unknown is not noted. -/
theorem Kind.named_environment (name : String) :
    Kind.environment.Named name (fun e => .text e.label) Finding.environment where
  ofVariable := fun _ => rfl
  ofFile := fun v hv => by
    cases v with
    | text s => exact ⟨s, rfl, rfl⟩
    | _ => cases hv
  ofEmpty := by decide +kernel
  kind := nofun
  known := fun {s v a} hv ha => by
    obtain ⟨e, he, rfl⟩ := Option.map_eq_some_iff.mp hv
    have hfound : Finding.environment s = ⟨.ok e, [], []⟩ := by
      unfold Finding.environment
      rw [he]
    rw [hfound] at ha ⊢
    cases ha
    exact ⟨rfl, rfl⟩
  unknown := fun {s a} fallback hs ha => by
    have hnone : Environment.ofLabel? s = none := Option.map_eq_none_iff.mp hs
    have hfound : Finding.environment s = ⟨.ok .development, [], [unknownEnvironment s]⟩ := by
      unfold Finding.environment
      rw [hnone]
    rw [hfound] at ha ⊢
    cases ha
    exact ⟨rfl, rfl⟩

/-- Log levels are named so; one that is unknown is noted. -/
theorem Kind.named_logLevel :
    Kind.logLevel.Named "MEDIATOR_LOG_LEVEL" (fun level => .text level.label) Finding.logLevel where
  ofVariable := fun _ => rfl
  ofFile := fun v hv => by
    cases v with
    | text s => exact ⟨s, rfl, rfl⟩
    | _ => cases hv
  ofEmpty := by decide +kernel
  kind := nofun
  known := fun {s v a} hv ha => by
    obtain ⟨level, hlevel, rfl⟩ := Option.map_eq_some_iff.mp hv
    have hfound : Finding.logLevel s = ⟨.ok level, [], []⟩ := by
      unfold Finding.logLevel
      dsimp only
      rw [hlevel]
    rw [hfound] at ha ⊢
    cases ha
    exact ⟨rfl, rfl⟩
  unknown := fun {s a} fallback hs ha => by
    have hnone : LogLevel.ofLabel? (String.ofList (Text.upper s.toList)) = none := Option.map_eq_none_iff.mp hs
    have hfound : Finding.logLevel s = ⟨.ok .info,
        [.malformed "MEDIATOR_LOG_LEVEL" (invalidLogLevel (String.ofList (Text.upper s.toList)))],
        [invalidLogLevel (String.ofList (Text.upper s.toList))]⟩ := by
      unfold Finding.logLevel
      dsimp only
      rw [hnone]
    rw [hfound] at ha ⊢
    cases ha
    exact ⟨rfl, rfl⟩

namespace Kind.Named

variable {α : Type} {k : Kind} {toValue : α → Value} {named : String → Finding α}

/-- The text that a variable leaves, over another text, is one that it spells, or the other. -/
theorem tells_getD (hk : k.Named name toValue named) (raw? : Option String) (default : String) :
    let s := (Reading.unlessBlank .ofText raw?).getD default
    (k.tells raw? = .nothing ∧ s = default) ∨ (∃ v, k.tells raw? = .value v ∧ k.ofText? s = some v) ∨
      (k.tells raw? = .malformed ∧ k.ofText? s = none) := by
  intro s
  cases raw? with
  | none => exact .inl ⟨rfl, rfl⟩
  | some raw =>
      have htells : k.tells (some raw) = match k.ofText? (trimmed raw) with
          | some v => .value v
          | none => if isBlankText raw then .nothing else .malformed := by
        unfold tells
        simp [hk.ofVariable, hk.kind]
      -- a blank variable leaves the other text
      cases hblank : isBlankText raw with
      | true =>
          have hs : s = default := by simp [s, Reading.unlessBlank, hblank, Reading.getD_absent]
          rw [trimmed_of_isBlankText hblank, hk.ofEmpty] at htells
          exact .inl ⟨htells.trans (if_pos hblank), hs⟩
      | false =>
          have hs : s = trimmed raw := by
            simp [s, Reading.unlessBlank, hblank, Reading.ofText, trimmed]
          rw [hs]
          cases hspelled : k.ofText? (trimmed raw) with
          | some v =>
              rw [hspelled] at htells
              exact .inr (.inl ⟨v, htells, rfl⟩)
          | none =>
              rw [hspelled] at htells
              exact .inr (.inr ⟨htells.trans (if_neg (by simp [hblank])), rfl⟩)

/-- A setting that has names is what the variable names, or else what the file names, which is well formed. -/
theorem takes (hk : k.Named name toValue named) {builtIn : String}
    (hbuiltIn : k.ofText? builtIn = some (.text builtIn))
    (hvalues : ∀ v, values.find? key = some v → (k.ofValue? v).isSome = true) {a : α}
    (h : ((Finding.text m values name key builtIn).bind named).result = .ok a) :
    ((Finding.text m values name key builtIn).bind named).Takes (toValue a) k name (m.variableNamed? name)
      (((values.find? key).bind k.ofValue?).getD (.text builtIn)) := by
  obtain ⟨s, hs, ha⟩ := Finding.result_bind_eq_ok.mp h
  have hnotes := Finding.malformed_bind hs named
  rw [Finding.malformed_text, List.nil_append] at hnotes
  obtain ⟨text?, hfile, hs⟩ := Finding.result_bind_eq_ok.mp hs
  obtain ⟨-, rfl⟩ := Reading.result_finding_eq_ok hs
  -- the text behind the variable spells the fallback
  have hfallback : k.ofText? (text?.getD builtIn) =
      some (((values.find? key).bind k.ofValue?).getD (.text builtIn)) := by
    cases text? with
    | none =>
        rw [find?_of_textAt?_none hfile]
        exact hbuiltIn
    | some s =>
        have hfound := find?_of_textAt?_some hfile
        obtain ⟨s', hs', hspelled⟩ := hk.ofFile _ (hvalues _ hfound)
        cases hs'
        obtain ⟨v, hv⟩ := Option.isSome_iff_exists.mp (hvalues _ hfound)
        rw [hfound, Option.bind_some, hv]
        exact hspelled.symm.trans hv
  rcases hk.tells_getD (m.variableNamed? name) (text?.getD builtIn) with
    ⟨htells, hsame⟩ | ⟨v, htells, hspelled⟩ | ⟨htells, hspelled⟩
  · -- the three cases of the text: the fallback, a name, no name
    rw [← hsame] at hfallback
    obtain ⟨hvalue, hsilent⟩ := hk.known hfallback ha
    exact ⟨by rw [htells]; exact hvalue, by rw [htells, hnotes]; exact hsilent⟩
  · obtain ⟨hvalue, hsilent⟩ := hk.known hspelled ha
    exact ⟨by rw [htells]; exact hvalue, by rw [htells, hnotes]; exact hsilent⟩
  · obtain ⟨hvalue, hnoted⟩ := hk.unknown _ hspelled ha
    exact ⟨by rw [htells]; exact hvalue, by rw [htells, hnotes]; exact hnoted⟩

end Kind.Named

/-! ## What a load finds -/

open Finding in
/-- The stages note as malformed what those of the eight settings do. -/
theorem malformed_stages (hfile : fileFields m = .ok values) :
    ((stages m).flatMap (·.notes)).filterMap Note.malformed? =
      ((text m values "MEDIATOR_ENVIRONMENT" "environment" "development").bind environment).malformed ++
      ((text m values "MEDIATOR_LOG_LEVEL" "logging.level" "INFO").bind logLevel).malformed ++
      (optionalFlag m values "MEDIATOR_LOG_JSON" "logging.json").malformed ++
      (flag m values "MEDIATOR_LOG_COLORS" "logging.colors" true).malformed ++
      (flag m values "MEDIATOR_METRICS_ENABLED" "mediator.metrics_enabled" true).malformed ++
      (flag m values "MEDIATOR_VALIDATE_ACTORS" "mediator.validate_actors" true).malformed ++
      (flag m values "MEDIATOR_WARN_UNKNOWN_UNLISTEN" "mediator.warn_unknown_unlisten" true).malformed ++
      (limit m values "MEDIATOR_METRICS_MAX_EVENT_NAMES" "mediator.metrics_max_event_names" 1000).malformed := by
  have hnotes : ∀ xs : List Stage,
      (xs.flatMap (·.notes)).filterMap Note.malformed? = xs.flatMap Finding.malformed := fun xs =>
    List.filterMap_flatMap
  have hskips : ((lift (.ok values)).bind fun _ => skips).malformed = [] := rfl
  have hdir : Finding.malformed (if (path m "MEDIATOR_LOG_DIR").result.toOption.join.isNone then
      fileDir m values else skips) = [] := by
    split
    · exact malformed_fileDir
    · rfl
  have hvalues : (fileFields m).toOption.getD [] = values := by rw [hfile]; rfl
  rw [hnotes]
  unfold stages settingStages
  rw [hvalues, hfile]
  simp only [List.flatMap_cons, List.flatMap_nil, malformed_assigning, malformed_path, hskips, hdir]
  -- the stages of paths note nothing
  rw [List.nil_append, List.nil_append, List.nil_append, List.nil_append, List.append_nil]
  simp only [List.append_assoc]

/-- **What a load finds for the settings that variables may give**: each setting is what its variable tells, over
its fallback, and the malformed variables are noted in their order. -/
theorem Loaded.found {s : Effective} (h : Loaded m values s) (hfile : fileFields m = .ok values)
    (hvalues : WellFormed values) :
    (∀ x ∈ variableTable, s.listing.find? x.setting =
      some (x.kind.setting (x.fallback values) (x.kind.tells (m.variableNamed? x.name)))) ∧
    ((stages m).flatMap (·.notes)).filterMap Note.malformed? = variableTable.flatMap fun x =>
      if x.kind.notes (x.kind.tells (m.variableNamed? x.name)) then [x.name] else [] := by
  have hwell : ∀ x ∈ variableTable, ∀ v, values.find? x.key = some v → (x.kind.ofValue? v).isSome = true := hvalues
  simp only [variableTable, List.forall_mem_cons] at hwell
  have hdevelopment : Kind.environment.ofText? "development" = some (.text "development") := by
    have hspelled : Environment.ofLabel? "development" = some .development := by decide +kernel
    exact congrArg (Option.map fun e : Environment => Value.text e.label) hspelled
  have hinfo : Kind.logLevel.ofText? "INFO" = some (.text "INFO") := by
    have hspelled : LogLevel.ofLabel? (String.ofList (Text.upper "INFO".toList)) = some .info := by
      decide +kernel
    exact congrArg (Option.map fun level : LogLevel => Value.text level.label) hspelled
  have henvironment := (Kind.named_environment "MEDIATOR_ENVIRONMENT").takes hdevelopment hwell.1 h.environment
  have hlogLevel := Kind.named_logLevel.takes hinfo hwell.2.1 h.logLevel
  have hlogJson := Finding.takes_optionalFlag h.logJson
  have hlogColors := Finding.takes_flag h.logColors
  have hmetrics := Finding.takes_flag h.metricsEnabled
  have hvalidate := Finding.takes_flag h.validateActors
  have hwarn := Finding.takes_flag h.warnUnknown
  have hlimit := Finding.takes_limit h.maxEventNames
  constructor
  · simp only [variableTable, List.forall_mem_cons, Effective.listing, OrderedMap.find?_cons, Variable.fallback,
      String.reduceEq, if_true, if_false, ← henvironment.setting, ← hlogLevel.setting, ← hlogJson.setting,
      ← hlogColors.setting, ← hmetrics.setting, ← hvalidate.setting, ← hwarn.setting, ← hlimit.setting]
    simp
  · rw [malformed_stages hfile, henvironment.noted, hlogLevel.noted, hlogJson.noted, hlogColors.noted,
      hmetrics.noted, hvalidate.noted, hwarn.noted, hlimit.noted]
    simp only [variableTable, List.flatMap_cons, List.flatMap_nil, List.append_nil, List.append_assoc]

/-- Different settings have different variables. -/
theorem nodup_names_variableTable : (variableTable.map (·.name)).Nodup := by simp [variableTable]

/-- What the setting is and whether the variable is noted, by cases of what the variable tells. -/
theorem Kind.setting_cases {k : Kind} {told : Told} {fallback : Value} {setting? : Option Value} {noted : Prop}
    (hsetting : setting? = some (k.setting fallback told)) (hnoted : noted ↔ k.notes told = true) :
    (told = .nothing → setting? = some fallback ∧ ¬ noted) ∧
      (∀ v, told = .value v → setting? = some v ∧ ¬ noted) ∧
      (told = .malformed →
        (k = .flag ∨ k = .limit → setting? = some fallback ∧ noted) ∧
        (k = .logLevel → setting? = some (.text "INFO") ∧ noted) ∧
        (k = .environment → setting? = some (.text "development") ∧ ¬ noted)) := by
  cases told with
  | nothing => simp [hsetting, hnoted, setting, notes]
  | value v => simp [hsetting, hnoted, setting, notes]
  | malformed => cases k <;> simp [hsetting, hnoted, setting, notes]

/-- **Malformed variables fall back.** A load succeeds, and the settings file has well-formed values for the
settings that variables may give. Where a variable says nothing, its setting is what the file has, or else built
in; where it says a value, the setting is this value; in neither case is it noted as malformed. A flag or a limit
with a malformed variable is also what the file has, or else built in, and the variable is noted. With a malformed
variable the log level is `INFO` and the environment `development`, whatever the file has; an unknown log level is
noted, an unknown environment is not. -/
theorem malformed_variables_fall_back {l l' : Loading} (h : load.run l = (.ok ⟨⟩, l'))
    {bindings : OrderedMap String (Option String)} {values : Fields}
    (hdistinct : l.machine.services.Distinct) (hvariables : variablesFile l.machine = .ok bindings)
    (hfile : fileFields (l.machine.setMissing bindings) = .ok values) (hvalues : WellFormed values) :
    ∃ r, l'.configuration.report? = some r ∧ ∀ x ∈ variableTable,
      let told := x.kind.tells (variableInForce? l.machine bindings x.name)
      let setting? := l'.configuration.settings.listing.find? x.setting
      (told = .nothing → setting? = some (x.fallback values) ∧ x.name ∉ r.malformed.keys) ∧
      (∀ v, told = .value v → setting? = some v ∧ x.name ∉ r.malformed.keys) ∧
      (told = .malformed →
        (x.kind = .flag ∨ x.kind = .limit → setting? = some (x.fallback values) ∧ x.name ∈ r.malformed.keys) ∧
        (x.kind = .logLevel → setting? = some (.text "INFO") ∧ x.name ∈ r.malformed.keys) ∧
        (x.kind = .environment → setting? = some (.text "development") ∧ x.name ∉ r.malformed.keys)) := by
  obtain ⟨bindings', values', hvariables', hmachine, hfile', hsettings, -, -⟩ := load_ok h
  obtain ⟨r, hreport, hmalformed⟩ := load_notes h
  obtain rfl : bindings = bindings' := Except.ok.inj (hvariables.symm.trans hvariables')
  have hnamed : ∀ name, l'.machine.variableNamed? name = variableInForce? l.machine bindings name :=
    hmachine ▸ variableNamed?_inForce hdistinct hvariables
  rw [← hmachine] at hfile
  obtain rfl : values = values' := Except.ok.inj (hfile.symm.trans hfile')
  obtain ⟨hsetting, hnotes⟩ := hsettings.found hfile hvalues
  simp only [hnamed] at hsetting hnotes
  refine ⟨r, hreport, fun x hx => Kind.setting_cases (hsetting x hx) ?_⟩
  -- a variable is noted for its own setting only
  have hmem : x.name ∈ r.malformed.keys ↔ ∃ y ∈ variableTable,
      y.kind.notes (y.kind.tells (variableInForce? l.machine bindings y.name)) = true ∧ x.name = y.name := by
    rw [hmalformed, hnotes, List.mem_flatMap]
    refine exists_congr fun y => and_congr_right fun _ => ?_
    cases y.kind.notes (y.kind.tells (variableInForce? l.machine bindings y.name)) <;> simp
  rw [hmem]
  constructor
  · rintro ⟨y, hy, hnoted, hname⟩
    obtain rfl : x = y := List.inj_on_of_nodup_map nodup_names_variableTable hx hy hname
    exact hnoted
  · exact fun hnoted => ⟨x, hx, hnoted, rfl⟩

/-- A machine with malformed variables for a flag that the settings file has, and for the log level. -/
def Sample.misspelt : Machine :=
  machine
    [("MEDIATOR_CONFIG_FILE", "conf.yaml"), ("MEDIATOR_LOG_COLORS", "maybe"), ("MEDIATOR_LOG_LEVEL", "loud"),
      ("MEDIATOR_METRICS_ENABLED", " No ")]
    [("conf.yaml", "logging:\n  colors: false\n  level: error\n")]

/-- A malformed flag leaves the one of the file, a malformed level is INFO, and a flag that is well formed is
taken. -/
theorem malformed_variables_fall_back_misspelt :
    ∃ l r, load.run ⟨Sample.misspelt, {}, []⟩ = (.ok ⟨⟩, l) ∧ l.configuration.report? = some r ∧
      (l.configuration.settings.listing.find? "LOG_COLORS" = some (.bool false) ∧
        "MEDIATOR_LOG_COLORS" ∈ r.malformed.keys) ∧
      (l.configuration.settings.listing.find? "LOG_LEVEL" = some (.text "INFO") ∧
        "MEDIATOR_LOG_LEVEL" ∈ r.malformed.keys) ∧
      l.configuration.settings.listing.find? "METRICS_ENABLED" = some (.bool false) ∧
        "MEDIATOR_METRICS_ENABLED" ∉ r.malformed.keys := by
  have hvariables : variablesFile Sample.misspelt = .ok [] := rfl
  have hloads : (load.run ⟨Sample.misspelt, {}, []⟩).1.toBool = true := by decide +kernel
  have hfields : (fileFields (Sample.misspelt.setMissing [])).toOption.any (fun values =>
      decide (WellFormed values ∧ (flagAt? values "logging.colors").toOption = some (some false))) = true := by
    decide +kernel
  obtain ⟨l, hrun⟩ := exists_run_of_toBool hloads
  obtain ⟨values, hfile, hvalues, hcolors⟩ := exists_ok_of_any hfields
  obtain ⟨r, hreport, hall⟩ := malformed_variables_fall_back hrun Services.distinct_standard hvariables hfile hvalues
  -- what the three variables tell
  have hmaybe : Kind.flag.tells (variableInForce? Sample.misspelt [] "MEDIATOR_LOG_COLORS") = .malformed := by
    rw [variableInForce?_of_named (r := "maybe") (by decide +kernel)]
    exact Kind.tells_malformed (by decide +kernel) (by decide +kernel)
  have hloud : Kind.logLevel.tells (variableInForce? Sample.misspelt [] "MEDIATOR_LOG_LEVEL") = .malformed := by
    rw [variableInForce?_of_named (r := "loud") (by decide +kernel)]
    exact Kind.tells_malformed (by decide +kernel) (by decide +kernel)
  have hno : Kind.flag.tells (variableInForce? Sample.misspelt [] "MEDIATOR_METRICS_ENABLED") =
      .value (.bool false) := by
    rw [variableInForce?_of_named (r := " No ") (by decide +kernel)]
    have hspelled : flag? " No " = some false := by decide +kernel
    exact Kind.tells_value (congrArg (Option.map Value.bool) hspelled)
  have hcolor := hall ⟨"MEDIATOR_LOG_COLORS", "LOG_COLORS", "logging.colors", .flag, .bool true⟩
    (by simp [variableTable])
  have hlevel := hall ⟨"MEDIATOR_LOG_LEVEL", "LOG_LEVEL", "logging.level", .logLevel, .text "INFO"⟩
    (by simp [variableTable])
  have hmetrics := hall
    ⟨"MEDIATOR_METRICS_ENABLED", "METRICS_ENABLED", "mediator.metrics_enabled", .flag, .bool true⟩
    (by simp [variableTable])
  obtain ⟨hfallback, hnoted⟩ := (hcolor.2.2 hmaybe).1 (.inl rfl)
  refine ⟨l, r, hrun, hreport, ⟨hfallback.trans ?_, hnoted⟩, (hlevel.2.2 hloud).2.1 rfl, hmetrics.2.1 _ hno⟩
  -- the file has the flag
  rw [Variable.fallback, flagAt?_fallback (eq_ok_of_toOption hcolors)]
  rfl

/-- A machine on which a variable names an unknown environment, and the settings file names one. -/
def Sample.moon : Machine :=
  machine [("MEDIATOR_CONFIG_FILE", "conf.yaml"), ("MEDIATOR_ENVIRONMENT", "moon")]
    [("conf.yaml", "environment: production\n")]

/-- An unknown environment is not noted, and hides the one that the settings file has. -/
theorem unknown_environment_unnoted :
    let x : Variable :=
      ⟨"MEDIATOR_ENVIRONMENT", "ENVIRONMENT", "environment", .environment, .text "development"⟩
    ∃ l r values, load.run ⟨Sample.moon, {}, []⟩ = (.ok ⟨⟩, l) ∧ l.configuration.report? = some r ∧
      variablesFile Sample.moon = .ok [] ∧ fileFields (Sample.moon.setMissing []) = .ok values ∧
      WellFormed values ∧ x ∈ variableTable ∧
      x.kind.tells (variableInForce? Sample.moon [] x.name) = .malformed ∧
      x.fallback values = .text "production" ∧
      l.configuration.settings.listing.find? x.setting = some (.text "development") ∧
      x.name ∉ r.malformed.keys := by
  intro x
  have hvariables : variablesFile Sample.moon = .ok [] := rfl
  have hloads : (load.run ⟨Sample.moon, {}, []⟩).1.toBool = true := by decide +kernel
  have hleft : (load.run ⟨Sample.moon, {}, []⟩).2.configuration.settings.environment = .development ∧
      ((load.run ⟨Sample.moon, {}, []⟩).2.configuration.report?.map (·.malformed.keys)) = some [] := by
    decide +kernel
  have hfields : (fileFields (Sample.moon.setMissing [])).toOption.any (fun values =>
      decide (WellFormed values ∧ (textAt? values "environment").toOption = some (some "production"))) = true := by
    decide +kernel
  have htold : x.kind.tells (variableInForce? Sample.moon [] x.name) = .malformed := by
    rw [variableInForce?_of_named (r := "moon") (by decide +kernel)]
    exact Kind.tells_malformed (by decide +kernel) (by decide +kernel)
  obtain ⟨l, hrun⟩ := exists_run_of_toBool hloads
  rw [hrun] at hleft
  obtain ⟨r, hreport, hkeys⟩ := Option.map_eq_some_iff.mp hleft.2
  obtain ⟨values, hfile, hvalues, henvironment⟩ := exists_ok_of_any hfields
  have hproduction : x.fallback values = .text "production" := by
    have hspelled : Environment.ofLabel? "production" = some .production := by decide +kernel
    rw [Variable.fallback, find?_of_textAt?_some (eq_ok_of_toOption henvironment)]
    exact congrArg (fun e? => (Option.map (fun e : Environment => Value.text e.label) e?).getD _) hspelled
  refine ⟨l, r, values, hrun, hreport, hvariables, hfile, hvalues, by simp [variableTable, x], htold,
    hproduction, ?_, by simp [hkeys]⟩
  change some (Value.text l.configuration.settings.environment.label) = _
  rw [hleft.1]
  rfl

end EventHub.Settings
