import EventHub.Proofs.Settings.Failure
import Mathlib.Data.List.TakeWhile

/-! # Values of the wrong type

A settings file may hold values of any type under the keys that a load asks for. A load looks at them before it
looks at the variables, so that a value of the wrong type ends it also where a variable would win. The one
exception is the log directory, for which the file is asked only where no variable gives one.

Which fault a load ends with is told by the first such value in the order in which a load asks (`result_load`). It
tells the value, unless an integer in that has too many digits to be written, which is another fault. The same
happens where the message about a malformed variable would show a limit of the file with too many digits.

Main statement: `load_reports_wrong_types`.
-/

namespace EventHub

/-- Whether a value is of the type that a setting has to have. A text is a flag if it spells one. -/
def SettingType.admits : SettingType → Value → Bool
  | .boolean, .bool _ => true
  | .boolean, .text s => (Settings.flag? s).isSome
  | .integer, .int _ => true
  | .string, .text _ => true
  | _, _ => false

namespace Settings

open Load

/-- The settings that a file may hold, with their types, in the order in which a load asks for them. -/
def fileSettings : List (String × SettingType) :=
  [("environment", .string), ("logging.level", .string), ("logging.json", .boolean),
    ("logging.colors", .boolean), ("logging.dir", .string), ("mediator.metrics_enabled", .boolean),
    ("mediator.validate_actors", .boolean), ("mediator.warn_unknown_unlisten", .boolean),
    ("mediator.metrics_max_event_names", .integer)]

/-- The fault of a setting under whose key the file holds a value of the wrong type. -/
def wrongValue? (values : Fields) (x : String × SettingType) : Option Fault :=
  match values.find? x.1 with
  | none => none
  | some v => if x.2.admits v then none else some (wrongType x.1 x.2 v)

/-- The fault of a malformed variable for the limit, where the limit of the file is one that cannot be written. -/
def misfit? (m : Machine) (values : Fields) : Option Fault :=
  match values.find? "mediator.metrics_max_event_names" with
  | some (.int i) =>
    match m.variableNamed? "MEDIATOR_METRICS_MAX_EVENT_NAMES" with
    | none => none
    | some raw =>
      if isBlankText raw || (integer? raw).any (1 ≤ ·) || (Value.int i).fits then none else some .tooManyDigits
  | _ => none

/-- Whether a load asks the file for a setting: for the log directory only where the variable is not set, or
blank. -/
def isAsked (m : Machine) (key : String) : Bool :=
  key ≠ "logging.dir" || (m.variableNamed? "MEDIATOR_LOG_DIR").all isBlankText

/-- The paths that a load reads can be expanded. -/
structure PathsKnown (m : Machine) (values : Fields) : Prop where
  configFile : ∃ file?, (pathVariable "MEDIATOR_CONFIG_FILE").on m = .ok file?
  logDir : ∃ dir?, (pathVariable "MEDIATOR_LOG_DIR").on m = .ok dir?
  fileDir : ∀ s, values.find? "logging.dir" = some (.text s) → ∃ dir, (pathOf s).on m = .ok dir

/-! ## Faults of values -/

/-- A flag fails for a wrong value. -/
theorem faultOf?_flagAt? (values : Fields) (key : String) :
    faultOf? (flagAt? values key) = wrongValue? values (key, .boolean) := by
  unfold flagAt? wrongValue?
  dsimp only
  cases values.find? key with
  | none => rfl
  | some v =>
      cases v with
      | text s =>
          cases hflag : flag? s <;> simp [SettingType.admits, faultOf?, hflag]
      | _ => rfl

/-- An integer fails for a wrong value. -/
theorem faultOf?_integerAt? (values : Fields) (key : String) :
    faultOf? (integerAt? values key) = wrongValue? values (key, .integer) := by
  unfold integerAt? wrongValue?
  dsimp only
  cases values.find? key with
  | none => rfl
  | some v => cases v <;> rfl

/-- A text fails for a wrong value. -/
theorem faultOf?_textAt? (values : Fields) (key : String) :
    faultOf? (textAt? values key) = wrongValue? values (key, .string) := by
  unfold textAt? wrongValue?
  dsimp only
  cases values.find? key with
  | none => rfl
  | some v => cases v <;> rfl

/-- A text that is not blank leaves something without the white space around it. -/
theorem trimmed_ne_empty {raw : String} (h : isBlankText raw = false) :
    String.ofList (Text.trim raw.toList) ≠ "" := by
  intro hempty
  have htrim : (Text.trimStart raw.toList).reverse.dropWhile Text.isBlank = [] :=
    List.reverse_eq_nil_iff.mp (String.ofList_eq_empty_iff.mp hempty)
  have hblank : ∀ c ∈ Text.trimStart raw.toList, Text.isBlank c = true := fun c hc =>
    List.dropWhile_eq_nil_iff.mp htrim c (List.mem_reverse.mpr hc)
  -- what is left at the start would begin with a character that is not blank
  have hstart : Text.trimStart raw.toList = [] := by
    by_contra hne
    have hhead : Text.isBlank ((Text.trimStart raw.toList).head hne) = false :=
      List.head_dropWhile_not Text.isBlank hne
    rw [hblank _ (List.head_mem hne)] at hhead
    cases hhead
  have hall : isBlankText raw = true := List.all_eq_true.mpr (List.dropWhile_eq_nil_iff.mp hstart)
  rw [hall] at h
  cases h

theorem faultOf?_eq_none {α : Type} {x : Except Fault α} (h : ∃ a, x = .ok a) : faultOf? x = none := by
  obtain ⟨a, rfl⟩ := h
  rfl

/-! ## Faults of stages -/

namespace Finding

variable {α β : Type} {m : Machine} {values : Fields} {name key : String}

/-- A finding that goes on without faults has the fault of its first part. -/
theorem faultOf?_bind {x : Finding α} {f : α → Finding β}
    (hf : ∀ a, x.result = .ok a → ∃ b, (f a).result = .ok b) :
    faultOf? (x.bind f).result = faultOf? x.result := by
  cases hx : x.result with
  | error e =>
      rw [bind_of_error hx]
      rfl
  | ok a =>
      rw [bind_of_ok hx]
      exact faultOf?_eq_none (hf a hx)

theorem faultOf?_assigning (x : Finding α) (g : α → Assignment) :
    faultOf? (x.bind fun a => .assigns (g a)).result = faultOf? x.result :=
  faultOf?_bind fun _ _ => ⟨_, rfl⟩

theorem faultOf?_flag (builtIn : Bool) :
    faultOf? (flag m values name key builtIn).result = wrongValue? values (key, .boolean) :=
  (faultOf?_bind fun _ _ => ⟨_, Reading.result_finding (Reading.fits_ofFlag rfl _ _) ..⟩).trans
    (faultOf?_flagAt? values key)

/-- Taking a flag that may be undecided fails for a wrong value in the file. -/
theorem faultOf?_optionalFlag :
    faultOf? (optionalFlag m values name key).result = wrongValue? values (key, .boolean) := by
  refine (faultOf?_bind fun flag? _ => ?_).trans (faultOf?_flagAt? values key)
  have hfits : (ofOptionalFlag flag?).fits = true := by cases flag? <;> rfl
  exact ⟨_, Reading.result_finding (Reading.fits_map.mpr (Reading.fits_ofFlag hfits _ _)) ..⟩

theorem faultOf?_text (builtIn : String) :
    faultOf? (text m values name key builtIn).result = wrongValue? values (key, .string) :=
  (faultOf?_bind fun _ _ => ⟨_, Reading.result_finding (Reading.fits_ofText _) ..⟩).trans
    (faultOf?_textAt? values key)

/-- What a variable for an integer ends with, by whether it is malformed and whether that can be told. -/
theorem faultOf?_reading (i : Int) (raw? : Option String) :
    faultOf? ((Reading.unlessBlank (.ofInteger name (.int i) (some 1)) raw?).finding name i (.int i)).result =
      raw?.bind fun raw =>
        if isBlankText raw || (integer? raw).any (1 ≤ ·) || (Value.int i).fits then none
        else some .tooManyDigits := by
  have hone : (boundOf (some 1)).fits = true := by decide +kernel
  have hbad : ∀ error, faultOf? ((Reading.unlessMisfit ((boundOf (some 1)).fits && (Value.int i).fits)
      error).finding name i (.int i)).result =
        if (Value.int i).fits then none else some .tooManyDigits := by
    intro error
    rw [hone, Bool.true_and]
    cases (Value.int i).fits <;> rfl
  cases raw? with
  | none => rfl
  | some raw =>
      unfold Reading.unlessBlank
      dsimp only [Option.bind_some]
      cases isBlankText raw with
      | true => rfl
      | false =>
          unfold Reading.ofInteger
          cases integer? raw with
          | none => exact hbad _
          | some k =>
              by_cases hleast : k < 1
              · simpa [hleast, Int.not_le.mpr hleast] using hbad _
              · simp [hleast, Int.not_lt.mp hleast, Reading.finding, faultOf?]

/-- Taking the limit fails for a wrong value in the file, or for a limit there that no message can show. -/
theorem faultOf?_limit :
    faultOf? (limit m values "MEDIATOR_METRICS_MAX_EVENT_NAMES" "mediator.metrics_max_event_names" 1000).result =
      (wrongValue? values ("mediator.metrics_max_event_names", .integer)).or (misfit? m values) := by
  have hwrong := faultOf?_integerAt? values "mediator.metrics_max_event_names"
  cases hfile : integerAt? values "mediator.metrics_max_event_names" with
  | error f =>
      rw [hfile] at hwrong
      rw [← hwrong]
      unfold limit
      rw [bind_of_error hfile]
      rfl
  | ok limit? =>
      rw [hfile] at hwrong
      rw [← hwrong]
      unfold limit
      rw [bind_of_ok hfile]
      dsimp only
      rw [faultOf?_reading]
      unfold misfit?
      cases limit? with
      | some i =>
          rw [find?_of_integerAt?_some hfile]
          cases m.variableNamed? "MEDIATOR_METRICS_MAX_EVENT_NAMES" <;> rfl
      | none =>
          -- the built-in limit can be written
          have hbuiltIn : (Value.int 1000).fits = true := by decide +kernel
          rw [find?_of_integerAt?_none hfile]
          cases m.variableNamed? "MEDIATOR_METRICS_MAX_EVENT_NAMES" <;> simp [hbuiltIn, faultOf?]

/-- Any text is an environment, or falls back. -/
theorem faultOf?_environment (x : Finding String) :
    faultOf? (x.bind environment).result = faultOf? x.result :=
  faultOf?_bind fun s _ => by
    unfold environment
    split <;> exact ⟨_, rfl⟩

/-- Any text is a log level, or falls back. -/
theorem faultOf?_logLevel (x : Finding String) :
    faultOf? (x.bind logLevel).result = faultOf? x.result :=
  faultOf?_bind fun s _ => by
    unfold logLevel
    dsimp only
    split <;> exact ⟨_, rfl⟩

/-- Taking the log directory from the file fails for a wrong value, where its path can be expanded. -/
theorem faultOf?_fileDir
    (hdir : ∀ s, values.find? "logging.dir" = some (.text s) → ∃ dir, (pathOf s).on m = .ok dir) :
    faultOf? (fileDir m values).result = wrongValue? values ("logging.dir", .string) := by
  refine (faultOf?_bind fun text? htext => ?_).trans (faultOf?_textAt? values "logging.dir")
  cases text? with
  | none => exact ⟨_, rfl⟩
  | some s =>
      obtain ⟨dir, hs⟩ := hdir s (find?_of_textAt?_some htext)
      exact ⟨_, result_bind_eq_ok.mpr ⟨dir, hs, rfl⟩⟩

/-! ## The log directory -/

/-- A variable gives a path unless it is not set, or blank. -/
theorem path_eq_none_iff {dir? : Option Path} (h : (path m key).result = .ok dir?) :
    dir? = none ↔ (m.variableNamed? key).all isBlankText = true := by
  obtain ⟨raw, hraw, hdir⟩ := result_bind_eq_ok.mp h
  obtain ⟨-, rfl⟩ := Reading.result_finding_eq_ok hraw
  cases hvariable : m.variableNamed? key with
  | none =>
      rw [hvariable] at hdir
      cases hdir
      exact ⟨fun _ => rfl, fun _ => rfl⟩
  | some raw =>
      rw [hvariable, Reading.unlessBlank] at hdir
      cases hblank : isBlankText raw with
      | true =>
          rw [hblank] at hdir
          cases hdir
          exact ⟨fun _ => hblank, fun _ => rfl⟩
      | false =>
          rw [hblank, if_neg Bool.false_ne_true, Reading.ofText, Reading.getD_value,
            if_neg (trimmed_ne_empty hblank)] at hdir
          rw [Option.all_some, hblank]
          unfold map at hdir
          cases hpath : (lift ((pathOf (String.ofList (Text.trim raw.toList))).on m)).result with
          | error e => simp [hpath, Except.map] at hdir
          | ok p =>
              rw [hpath] at hdir
              cases hdir
              exact ⟨nofun, nofun⟩

end Finding

/-! ## What a load ends with -/

/-- Stages end with the first fault. -/
theorem result_settle_eq (xs : List Stage) (l : Loading) :
    (settle xs l).1 = (xs.findSome? fun x => faultOf? x.result).elim (.ok ⟨⟩) .error := by
  induction xs generalizing l with
  | nil => rfl
  | cons x xs ih =>
      cases hx : x.result with
      | error f => rw [settle_of_error hx, List.findSome?_cons, hx]; rfl
      | ok a? => rw [settle_of_ok hx, ih, List.findSome?_cons, hx]; rfl

theorem isAsked_of_ne (m : Machine) {key : String} (h : key ≠ "logging.dir") : isAsked m key = true := by
  simp [isAsked, h]

theorem findSome?_cons_or {α β : Type} (f : α → Option β) (a : α) (l : List α) :
    (a :: l).findSome? f = (f a).or (l.findSome? f) := by
  rw [List.findSome?_cons]
  cases f a <;> rfl

/-- The first wrong value that a load asks for. Only whether it asks for the log directory depends on the
machine. -/
theorem findSome?_asked (m : Machine) (f : String × SettingType → Option Fault) :
    (fileSettings.filter fun x => isAsked m x.1).findSome? f =
      ((fileSettings.take 4).findSome? f).or
        ((if isAsked m "logging.dir" then f ("logging.dir", .string) else none).or
          ((fileSettings.drop 5).findSome? f)) := by
  have hsplit : fileSettings = fileSettings.take 4 ++ ("logging.dir", .string) :: fileSettings.drop 5 := rfl
  have hbefore : (fileSettings.take 4).filter (fun x => isAsked m x.1) = fileSettings.take 4 :=
    List.filter_eq_self.mpr fun x hx =>
      isAsked_of_ne m ((by decide : ∀ x ∈ fileSettings.take 4, x.1 ≠ "logging.dir") x hx)
  have hafter : (fileSettings.drop 5).filter (fun x => isAsked m x.1) = fileSettings.drop 5 :=
    List.filter_eq_self.mpr fun x hx =>
      isAsked_of_ne m ((by decide : ∀ x ∈ fileSettings.drop 5, x.1 ≠ "logging.dir") x hx)
  conv_lhs => rw [hsplit]
  rw [List.filter_append, List.findSome?_append, hbefore, List.filter_cons]
  cases isAsked m "logging.dir" with
  | true => rw [if_pos rfl, if_pos rfl, findSome?_cons_or, hafter]
  | false => rw [if_neg Bool.false_ne_true, if_neg Bool.false_ne_true, hafter, Option.none_or]

open Finding in
/-- The stages of the settings have the fault of the first wrong value that a load asks for, or else that of the
limit, which comes last. -/
theorem findSome?_settingStages {m : Machine} {values : Fields} (hpaths : PathsKnown m values) :
    ((settingStages m values).findSome? fun x => faultOf? x.result) =
      ((fileSettings.filter fun x => isAsked m x.1).findSome? (wrongValue? values)).or (misfit? m values) := by
  obtain ⟨dir?, hdir⟩ := hpaths.logDir
  rw [← result_path] at hdir
  have hpath : faultOf? (path m "MEDIATOR_LOG_DIR").result = none := faultOf?_eq_none ⟨_, hdir⟩
  -- the stage of the directory has a fault only where the file is asked for it
  have hfile : faultOf? (if (path m "MEDIATOR_LOG_DIR").result.toOption.join.isNone then fileDir m values
      else skips).result =
        if isAsked m "logging.dir" then wrongValue? values ("logging.dir", .string) else none := by
    have hasked : isAsked m "logging.dir" = dir?.isNone := by
      rw [Bool.eq_iff_iff, Option.isNone_iff_eq_none, path_eq_none_iff hdir]
      simp [isAsked]
    rw [hdir, hasked]
    cases dir? with
    | none => exact faultOf?_fileDir hpaths.fileDir
    | some dir => rfl
  rw [findSome?_asked]
  unfold settingStages fileSettings
  simp only [findSome?_cons_or, faultOf?_assigning, faultOf?_environment, faultOf?_logLevel, faultOf?_text,
    faultOf?_flag, faultOf?_optionalFlag, faultOf?_limit, hpath, hfile, Option.none_or, List.take_succ_cons,
    List.take_zero, List.drop_succ_cons, List.drop_zero, List.findSome?_nil, Option.or_none, Option.or_assoc]

/-- **What a load ends with** is told by the first value of the wrong type among those it asks for, or else by a
limit that a message cannot show. -/
theorem result_load {l : Loading} {bindings : OrderedMap String (Option String)} {values : Fields}
    (hvariables : variablesFile l.machine = .ok bindings)
    (hfile : fileFields (l.machine.setMissing bindings) = .ok values)
    (hpaths : PathsKnown (l.machine.setMissing bindings) values) :
    (outcome load l).1 =
      (((fileSettings.filter fun x => isAsked (l.machine.setMissing bindings) x.1).findSome?
        (wrongValue? values)).or (misfit? (l.machine.setMissing bindings) values)).elim (.ok ⟨⟩) .error := by
  have hpath : faultOf? (Finding.path (l.machine.setMissing bindings) "MEDIATOR_CONFIG_FILE").result =
      none := by
    rw [Finding.result_path]
    exact faultOf?_eq_none hpaths.configFile
  have hstages : ((stages (l.machine.setMissing bindings)).findSome? fun x => faultOf? x.result) =
      ((fileSettings.filter fun x => isAsked (l.machine.setMissing bindings) x.1).findSome?
        (wrongValue? values)).or (misfit? (l.machine.setMissing bindings) values) := by
    unfold stages
    rw [findSome?_cons_or, Finding.faultOf?_assigning, hpath, hfile, findSome?_cons_or]
    exact findSome?_settingStages hpaths
  have hsettle := result_settle_eq (stages (l.machine.setMissing bindings))
    (l.begun (l.machine.setMissing bindings))
  rw [hstages] at hsettle
  rw [outcome_load, hvariables]
  dsimp only
  rcases hrun : settle (stages (l.machine.setMissing bindings))
    (l.begun (l.machine.setMissing bindings)) with ⟨f | _, settled⟩
  · rw [hrun] at hsettle
    exact hsettle
  · rw [hrun] at hsettle
    rw [← hsettle]
    rfl

/-- The file holds a value of the wrong type under the key of a setting. -/
def HoldsWrong (values : Fields) (x : String × SettingType) : Prop :=
  ∃ v, values.find? x.1 = some v ∧ x.2.admits v = false

/-- A wrong value is one that is there and is not admitted. -/
theorem wrongValue?_eq_some {values : Fields} {x : String × SettingType} {f : Fault} :
    wrongValue? values x = some f ↔
      ∃ v, values.find? x.1 = some v ∧ x.2.admits v = false ∧ f = wrongType x.1 x.2 v := by
  unfold wrongValue?
  cases values.find? x.1 with
  | none => simp
  | some v =>
      cases hadmits : x.2.admits v with
      | true => simp [hadmits]
      | false => simp [hadmits, @eq_comm _ f]

/-- A fault of a wrong value tells that there is one. -/
theorem isSome_wrongValue? {values : Fields} {x : String × SettingType} :
    (wrongValue? values x).isSome = true ↔ HoldsWrong values x := by
  rw [Option.isSome_iff_exists]
  constructor
  · rintro ⟨f, hf⟩
    obtain ⟨v, hv, hadmits, -⟩ := wrongValue?_eq_some.mp hf
    exact ⟨v, hv, hadmits⟩
  · rintro ⟨v, hv, hadmits⟩
    exact ⟨_, wrongValue?_eq_some.mpr ⟨v, hv, hadmits, rfl⟩⟩

instance {values : Fields} {x : String × SettingType} : Decidable (HoldsWrong values x) :=
  decidable_of_iff _ isSome_wrongValue?

/-- A limit that a message cannot show is one of the file. -/
theorem misfit?_eq_some {m : Machine} {values : Fields} {f : Fault} (h : misfit? m values = some f) :
    f = .tooManyDigits ∧
      ∃ v, values.find? "mediator.metrics_max_event_names" = some v ∧ v.fits = false := by
  unfold misfit? at h
  split at h
  · rename_i i hfound
    split at h
    · cases h
    · split at h
      · cases h
      · rename_i hbad
        obtain ⟨-, hlong⟩ : _ ∧ (Value.int i).fits = false := by simpa using hbad
        exact ⟨(Option.some.inj h).symm, _, hfound, hlong⟩
  · cases h

/-- What is found first in a list is found in it, or else what comes after the list is the answer. -/
theorem findSome?_or_eq_some {α β : Type} {f : α → Option β} {l : List α} {other : Option β} {b : β}
    (h : (l.findSome? f).or other = some b) : (∃ a ∈ l, f a = some b) ∨ other = some b := by
  cases hfirst : l.findSome? f with
  | none => exact .inr (by rwa [hfirst] at h)
  | some c =>
      rw [hfirst] at h
      obtain rfl : c = b := Option.some.inj h
      exact .inl (List.exists_of_findSome?_eq_some hfirst)

/-- Values under the keys of settings that can all be told. -/
def AllFit (values : Fields) : Prop := ∀ x ∈ fileSettings, ∀ v, values.find? x.1 = some v → v.fits = true

instance (values : Fields) : Decidable (AllFit values) :=
  decidable_of_iff (∀ x ∈ fileSettings, (values.find? x.1).all Value.fits = true)
    (forall₂_congr fun x _ => by cases values.find? x.1 <;> simp)

/-- A load fails where it asks for a value of the wrong type. -/
theorem load_fails_of_holdsWrong {l : Loading} {bindings : OrderedMap String (Option String)} {values : Fields}
    (hvariables : variablesFile l.machine = .ok bindings)
    (hfile : fileFields (l.machine.setMissing bindings) = .ok values)
    (hpaths : PathsKnown (l.machine.setMissing bindings) values) {x : String × SettingType} (hx : x ∈ fileSettings)
    (hasked : isAsked (l.machine.setMissing bindings) x.1 = true) (hwrong : HoldsWrong values x) :
    ∃ f, (outcome load l).1 = .error f := by
  obtain ⟨f, hf⟩ : ∃ f, (fileSettings.filter fun x => isAsked (l.machine.setMissing bindings) x.1).findSome?
      (wrongValue? values) = some f :=
    Option.isSome_iff_exists.mp
      (List.findSome?_isSome_iff.mpr ⟨x, List.mem_filter.mpr ⟨hx, hasked⟩, isSome_wrongValue?.mpr hwrong⟩)
  refine ⟨f, ?_⟩
  rw [result_load hvariables hfile hpaths, hf]
  rfl

/-- The faults of a load whose files can be read and whose paths can be expanded: each is about a value that the
load asks for, and tells it if it is of the wrong type, or else says that it has too many digits. -/
theorem load_fault_tells {l : Loading} {bindings : OrderedMap String (Option String)} {values : Fields} {f : Fault}
    (hvariables : variablesFile l.machine = .ok bindings)
    (hfile : fileFields (l.machine.setMissing bindings) = .ok values)
    (hpaths : PathsKnown (l.machine.setMissing bindings) values) (h : (outcome load l).1 = .error f) :
    ∃ x ∈ fileSettings, isAsked (l.machine.setMissing bindings) x.1 = true ∧ ∃ v, values.find? x.1 = some v ∧
      (x.2.admits v = false ∧ f = .wrongSetting x.1 x.2 v ∨ v.fits = false ∧ f = .tooManyDigits) := by
  rw [result_load hvariables hfile hpaths] at h
  obtain ⟨g, hg, rfl⟩ : ∃ g, _ = some g ∧ g = f := by
    cases hfault : ((fileSettings.filter fun x => isAsked (l.machine.setMissing bindings) x.1).findSome?
        (wrongValue? values)).or (misfit? (l.machine.setMissing bindings) values) with
    | none =>
        rw [hfault] at h
        cases h
    | some g =>
        rw [hfault] at h
        exact ⟨g, hfault, Except.error.inj h⟩
  rcases findSome?_or_eq_some hg with ⟨x, hx, hwrong⟩ | hmisfit
  · obtain ⟨hmem, hasked⟩ := List.mem_filter.mp hx
    obtain ⟨v, hv, hadmits, rfl⟩ := wrongValue?_eq_some.mp hwrong
    refine ⟨x, hmem, hasked, v, hv, ?_⟩
    unfold wrongType
    cases hfits : v.fits with
    | true => exact .inl ⟨hadmits, rfl⟩
    | false => exact .inr ⟨rfl, rfl⟩
  · obtain ⟨rfl, v, hv, hlong⟩ := misfit?_eq_some hmisfit
    exact ⟨("mediator.metrics_max_event_names", .integer), by decide, isAsked_of_ne _ (by decide), v, hv,
      .inr ⟨hlong, rfl⟩⟩

/-- **A load reports values of the wrong type.** Where its files can be read and the paths that it is given can
be expanded, a load fails if the settings file holds a value of the wrong type under one of the nine keys, and it
fails only with a fault that tells such a key and value, or says that the value has too many digits to be told.
If all values can be told, it ends with a fault of the first kind exactly if there is a value of the wrong type.
Variables make no difference to that, with one exception: where one gives the log directory, the value under
`logging.dir` is not looked at. -/
theorem load_reports_wrong_types {l : Loading} {bindings : OrderedMap String (Option String)} {values : Fields}
    (hvariables : variablesFile l.machine = .ok bindings)
    (hfile : fileFields (l.machine.setMissing bindings) = .ok values)
    (hpaths : PathsKnown (l.machine.setMissing bindings) values) :
    ((∃ x ∈ fileSettings, isAsked (l.machine.setMissing bindings) x.1 = true ∧ HoldsWrong values x) →
        ∃ f, (load.run l).1 = .error f) ∧
      (AllFit values →
        ((∃ x ∈ fileSettings, isAsked (l.machine.setMissing bindings) x.1 = true ∧ HoldsWrong values x) ↔
          ∃ key wanted v, (load.run l).1 = .error (.wrongSetting key wanted v))) ∧
      (∀ f, (load.run l).1 = .error f →
        ∃ x ∈ fileSettings, isAsked (l.machine.setMissing bindings) x.1 = true ∧ ∃ v, values.find? x.1 = some v ∧
          (x.2.admits v = false ∧ f = .wrongSetting x.1 x.2 v ∧ f.className = "ConfigValidationError" ∨
            v.fits = false ∧ f = .tooManyDigits)) := by
  -- the settings are asked for one by one, and the load ends at the first wrong value at the latest
  have hfails : (∃ x ∈ fileSettings, isAsked (l.machine.setMissing bindings) x.1 = true ∧ HoldsWrong values x) →
      ∃ f, (load.run l).1 = .error f := fun ⟨_, hx, hasked, hwrong⟩ =>
    load_fails_of_holdsWrong hvariables hfile hpaths hx hasked hwrong
  refine ⟨hfails, fun hfit => ⟨fun hwrong => ?_, fun ⟨key, wanted, v, herror⟩ => ?_⟩, fun f herror => ?_⟩
  · obtain ⟨f, herror⟩ := hfails hwrong
    obtain ⟨x, hx, -, v, hv, ⟨-, rfl⟩ | ⟨hlong, -⟩⟩ := load_fault_tells hvariables hfile hpaths herror
    · exact ⟨_, _, v, herror⟩
    · rw [hfit x hx v hv] at hlong
      cases hlong
  · obtain ⟨x, hx, hasked, v', hv, ⟨hadmits, -⟩ | ⟨-, hother⟩⟩ := load_fault_tells hvariables hfile hpaths herror
    · exact ⟨x, hx, hasked, v', hv, hadmits⟩
    · cases hother
  · obtain ⟨x, hx, hasked, v, hv, ⟨hadmits, rfl⟩ | hlong⟩ := load_fault_tells hvariables hfile hpaths herror
    · exact ⟨x, hx, hasked, v, hv, .inl ⟨hadmits, rfl, rfl⟩⟩
    · exact ⟨x, hx, hasked, v, hv, .inr hlong⟩

/-- Where the file holds no text for the log directory, no path has to be expanded but those of the variables. -/
theorem PathsKnown.of_holdsWrong {m : Machine} {values : Fields}
    (hconfig : ((pathVariable "MEDIATOR_CONFIG_FILE").on m).toBool = true)
    (hdir : ((pathVariable "MEDIATOR_LOG_DIR").on m).toBool = true)
    (hwrong : HoldsWrong values ("logging.dir", .string)) : PathsKnown m values where
  configFile := exists_ok_of_toBool hconfig
  logDir := exists_ok_of_toBool hdir
  fileDir := by
    rintro s hs
    obtain ⟨v, hv, hadmits⟩ := hwrong
    rw [hs] at hv
    cases hv
    cases hadmits

/-- A machine on which variables give the log directory and the metrics, with a settings file of a given text. -/
def Sample.directed (text : String) : Machine :=
  machine
    [("MEDIATOR_CONFIG_FILE", "conf.yaml"), ("MEDIATOR_LOG_DIR", "logs"), ("MEDIATOR_METRICS_ENABLED", "false")]
    [("conf.yaml", text)]

/-- The metrics are a number, and a wrong value for the log directory besides is not asked for. -/
theorem load_reports_wrong_types_metrics :
    let m := Sample.directed "logging:\n  dir: 3\nmediator:\n  metrics_enabled: 3\n"
    variablesFile m = .ok [] ∧
      ∃ values, fileFields m = .ok values ∧ PathsKnown m values ∧
        ∃ key wanted v, (load.run ⟨m, {}, []⟩).1 = .error (.wrongSetting key wanted v) := by
  intro m
  have hvariables : variablesFile m = .ok [] := rfl
  have hfields : (fileFields m).toOption.any (fun values =>
      decide (HoldsWrong values ("logging.dir", .string) ∧
        HoldsWrong values ("mediator.metrics_enabled", .boolean) ∧ AllFit values)) = true := by decide +kernel
  have hconfig : ((pathVariable "MEDIATOR_CONFIG_FILE").on m).toBool = true := by decide +kernel
  have hdir : ((pathVariable "MEDIATOR_LOG_DIR").on m).toBool = true := by decide +kernel
  obtain ⟨values, hfile, hwrongDir, hwrongFlag, hfit⟩ := exists_ok_of_any hfields
  have hpaths : PathsKnown m values := .of_holdsWrong hconfig hdir hwrongDir
  have hreports := (load_reports_wrong_types (l := ⟨m, {}, []⟩) hvariables hfile hpaths).2.1 hfit
  exact ⟨hvariables, values, hfile, hpaths, hreports.mp ⟨("mediator.metrics_enabled", .boolean),
    by decide, isAsked_of_ne _ (by decide), hwrongFlag⟩⟩

/-- A load does not report a wrong value for the log directory where a variable gives one. -/
theorem load_overlooks_wrong_directory :
    let m := Sample.directed "logging:\n  dir: 3\n"
    variablesFile m = .ok [] ∧
      ∃ values, fileFields m = .ok values ∧ PathsKnown m values ∧
        HoldsWrong values ("logging.dir", .string) ∧ ("logging.dir", .string) ∈ fileSettings ∧
        (load.run ⟨m, {}, []⟩).1 = .ok ⟨⟩ := by
  intro m
  have hfields : (fileFields m).toOption.any (fun values =>
      decide (HoldsWrong values ("logging.dir", .string))) = true := by decide +kernel
  have hconfig : ((pathVariable "MEDIATOR_CONFIG_FILE").on m).toBool = true := by decide +kernel
  have hdir : ((pathVariable "MEDIATOR_LOG_DIR").on m).toBool = true := by decide +kernel
  have hload : (load.run ⟨m, {}, []⟩).1.toBool = true := by decide +kernel
  obtain ⟨values, hfile, hwrong⟩ := exists_ok_of_any hfields
  obtain ⟨l, hrun⟩ := exists_run_of_toBool hload
  exact ⟨rfl, values, hfile, .of_holdsWrong hconfig hdir hwrong, hwrong, by decide, congrArg Prod.fst hrun⟩

end Settings

end EventHub
