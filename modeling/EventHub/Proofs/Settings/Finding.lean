import EventHub.Settings.Load
import Mathlib.Tactic.Common

/-! # What the steps of a load find

The steps of a load read the variables and the files of a machine, and never the configuration. What a step
ends with, what it notes in the report and which warnings it gives therefore depends on the machine alone: it
is a finding (`Finds`). The findings of a sequence follow from those of its parts.

Variables of all types are read in one way (`Reading.finding`): one that is absent or malformed leaves the
default, and one that is malformed is noted as such, with a warning. Where the warning cannot be written, as the
default has too many digits, the variable ends the load.
-/

namespace EventHub.Settings

/-! ## Outcomes of loads -/

namespace Load

variable {α β : Type}

/-- How a step of a load ends, and what it leaves. -/
def outcome (act : Load α) (l : Loading) : Except Fault α × Loading := act.run l

@[simp] theorem outcome_pure (a : α) (l : Loading) : outcome (pure a) l = (.ok a, l) := rfl

/-- One step after the other. -/
theorem outcome_bind (act : Load α) (f : α → Load β) (l : Loading) :
    outcome (act >>= f) l =
      match outcome act l with
      | (.ok a, l) => outcome (f a) l
      | (.error e, l) => (.error e, l) := by
  change (ExceptT.bindCont f (act.run l).1 : StateM Loading _) (act.run l).2 = _
  unfold outcome
  rcases act.run l with ⟨a | e, l⟩ <;> rfl

theorem outcome_bind_ok {act : Load α} {l l' : Loading} {a : α} (h : outcome act l = (.ok a, l'))
    (f : α → Load β) : outcome (act >>= f) l = outcome (f a) l' := by
  rw [outcome_bind, h]

theorem outcome_bind_error {act : Load α} {l l' : Loading} {e : Fault}
    (h : outcome act l = (.error e, l')) (f : α → Load β) : outcome (act >>= f) l = (.error e, l') := by
  rw [outcome_bind, h]

@[simp] theorem outcome_get_bind (f : Loading → Load β) (l : Loading) :
    outcome (get >>= f) l = outcome (f l) l := rfl

@[simp] theorem outcome_modify (f : Loading → Loading) (l : Loading) :
    outcome (modify f) l = (.ok ⟨⟩, f l) := rfl

@[simp] theorem outcome_throw (e : Fault) (l : Loading) :
    outcome (throw e : Load α) l = (.error e, l) := rfl

/-- A check of values neither reads nor changes anything. -/
@[simp] theorem outcome_lift (x : Except Fault α) (l : Loading) :
    outcome (liftM x : Load α) l = (x, l) := rfl

end Load

open Load

/-! ## Findings -/

/-- What a load notes in its report. -/
inductive Note where
  | source (key : String) (fromVariable : Bool) (default : Value)
  | malformed (key error : String)

/-- The report with one more note. -/
def Note.enter (r : Report) : Note → Report
  | source key fromVariable default => r.noteSource key fromVariable default
  | malformed key error => r.noteMalformed key error

/-- What a step of a load ends with, what it notes, and its warnings. -/
structure Finding (α : Type) where
  result : Except Fault α
  notes : List Note := []
  warnings : List String := []

namespace Finding

variable {α β : Type}

/-- What a step finds that goes on with what another one ended with. -/
def bind (x : Finding α) (f : α → Finding β) : Finding β :=
  match x.result with
  | .ok a => ⟨(f a).result, x.notes ++ (f a).notes, x.warnings ++ (f a).warnings⟩
  | .error e => ⟨.error e, x.notes, x.warnings⟩

/-- A finding with another result. -/
def map (f : α → β) (x : Finding α) : Finding β := ⟨x.result.map f, x.notes, x.warnings⟩

theorem bind_of_ok {x : Finding α} {a : α} (h : x.result = .ok a) (f : α → Finding β) :
    x.bind f = ⟨(f a).result, x.notes ++ (f a).notes, x.warnings ++ (f a).warnings⟩ := by
  unfold bind
  rw [h]

theorem bind_of_error {x : Finding α} {e : Fault} (h : x.result = .error e) (f : α → Finding β) :
    x.bind f = ⟨.error e, x.notes, x.warnings⟩ := by
  unfold bind
  rw [h]

/-- Findings may be put together in either way. -/
theorem bind_assoc {γ : Type} (x : Finding α) (f : α → Finding β) (g : β → Finding γ) :
    (x.bind f).bind g = x.bind fun a => (f a).bind g := by
  cases hx : x.result with
  | error e => rw [bind_of_error hx, bind_of_error hx, bind_of_error rfl]
  | ok a =>
      rw [bind_of_ok hx, bind_of_ok hx]
      cases hf : (f a).result with
      | error e => rw [bind_of_error rfl, bind_of_error hf]
      | ok b => rw [bind_of_ok rfl, bind_of_ok hf, List.append_assoc, List.append_assoc]

theorem result_map_eq_error {f : α → β} {x : Finding α} {e : Fault} :
    (x.map f).result = .error e ↔ x.result = .error e := by
  unfold map
  cases x.result <;> simp [Except.map]

theorem result_bind_eq_ok {x : Finding α} {f : α → Finding β} {b : β} :
    (x.bind f).result = .ok b ↔ ∃ a, x.result = .ok a ∧ (f a).result = .ok b := by
  unfold bind
  cases x.result <;> simp

/-- A finding in two parts has the fault of the first one that fails. -/
theorem result_bind_eq_error {x : Finding α} {f : α → Finding β} {e : Fault} :
    (x.bind f).result = .error e ↔
      x.result = .error e ∨ ∃ a, x.result = .ok a ∧ (f a).result = .error e := by
  unfold bind
  cases x.result <;> simp

end Finding

/-- A load whose report has more notes, and which gave more warnings. -/
def Loading.noted (l : Loading) (notes : List Note) (warnings : List String) : Loading :=
  { l with
    configuration :=
      { l.configuration with
        report? := notes.foldl (fun r? n => some (n.enter (r?.getD {}))) l.configuration.report? }
    warnings := l.warnings ++ warnings }

namespace Loading

variable (l : Loading) (notes : List Note) (warnings : List String)

@[simp] theorem noted_nil : l.noted [] [] = l := by
  unfold noted
  rw [List.append_nil]
  rfl

theorem noted_noted (more : List Note) (further : List String) :
    (l.noted notes warnings).noted more further = l.noted (notes ++ more) (warnings ++ further) := by
  unfold noted
  rw [List.append_assoc, List.foldl_append]

end Loading

/-- On a machine, a step of a load comes to a finding, whatever the configuration is, and changes nothing but
the report and the warnings. -/
structure Finds {α : Type} (m : Machine) (act : Load α) (x : Finding α) : Prop where
  outcome : ∀ l : Loading, l.machine = m → Load.outcome act l = (x.result, l.noted x.notes x.warnings)

namespace Finds

variable {α β : Type} {m : Machine}

theorem pure (a : α) : Finds m (Pure.pure a) ⟨.ok a, [], []⟩ where
  outcome := fun l _ => by simp

theorem throw (e : Fault) : Finds m (MonadExcept.throw e : Load α) ⟨.error e, [], []⟩ where
  outcome := fun l _ => by rw [outcome_throw, Loading.noted_nil]

theorem lift (x : Except Fault α) : Finds m (liftM x : Load α) ⟨x, [], []⟩ where
  outcome := fun l _ => by simp

/-- An action that depends on the machine. -/
theorem get_bind {f : Loading → Load β} {act : Load β} {x : Finding β} (h : Finds m act x)
    (hf : ∀ l : Loading, l.machine = m → f l = act) : Finds m (get >>= f) x where
  outcome := fun l hl => by
    rw [outcome_get_bind, hf l hl]
    exact h.outcome l hl

/-- One finding after another. -/
theorem bind {act : Load α} {x : Finding α} {f : α → Load β} {g : α → Finding β} (h : Finds m act x)
    (hf : ∀ a, x.result = .ok a → Finds m (f a) (g a)) : Finds m (act >>= f) (x.bind g) where
  outcome := fun l hl => by
    have hact := h.outcome l hl
    cases hx : x.result with
    | error e =>
        rw [hx] at hact
        rw [outcome_bind_error hact, Finding.bind_of_error hx]
    | ok a =>
        rw [hx] at hact
        -- the second part begins with what the first one noted
        have hrest := (hf a hx).outcome (l.noted x.notes x.warnings) hl
        rw [outcome_bind_ok hact, Finding.bind_of_ok hx, hrest, Loading.noted_noted]

/-- A first part that only looks. -/
theorem look_bind {act : Load α} {a : α} {f : α → Load β} {x : Finding β} (h : Finds m act ⟨.ok a, [], []⟩)
    (hf : Finds m (f a) x) : Finds m (act >>= f) x where
  outcome := fun l hl => by
    have hact := h.outcome l hl
    rw [Loading.noted_nil] at hact
    rw [outcome_bind_ok hact, hf.outcome l hl]

/-- A finding whose result is changed. -/
theorem map {act : Load α} {x : Finding α} (h : Finds m act x) (f : α → β) :
    Finds m (act >>= fun a => Pure.pure (f a)) (x.map f) where
  outcome := fun l hl => by
    have hact := h.outcome l hl
    unfold Finding.map
    cases hx : x.result with
    | error e =>
        rw [hx] at hact
        exact outcome_bind_error hact _
    | ok a =>
        rw [hx] at hact
        exact outcome_bind_ok hact _

theorem warn (message : String) : Finds m (Settings.warn message) ⟨.ok ⟨⟩, [], [message]⟩ where
  outcome := fun _ _ => rfl

/-- A note of the source of a setting. -/
theorem noteSource (key : String) (fromVariable : Bool) (default : Value) :
    Finds m (report (·.noteSource key fromVariable default))
      ⟨.ok ⟨⟩, [.source key fromVariable default], []⟩ where
  outcome := fun l _ => by
    unfold Loading.noted
    rw [List.append_nil]
    rfl

/-- A note of a malformed variable. -/
theorem noteMalformed (key error : String) :
    Finds m (report (·.noteMalformed key error)) ⟨.ok ⟨⟩, [.malformed key error], []⟩ where
  outcome := fun l _ => by
    unfold Loading.noted
    rw [List.append_nil]
    rfl

end Finds

/-! ## Values of the file -/

/-- A flag that is not found is not in the file. -/
theorem find?_of_flagAt?_none {values : Fields} {key : String} (h : flagAt? values key = .ok none) :
    values.find? key = none := by
  unfold flagAt? at h
  split at h
  · assumption
  · split at h
    · cases h
    · split at h <;> cases h
    · cases h

/-- An integer that is not found is not in the file. -/
theorem find?_of_integerAt?_none {values : Fields} {key : String} (h : integerAt? values key = .ok none) :
    values.find? key = none := by
  unfold integerAt? at h
  split at h
  · assumption
  · cases h
  · cases h

/-- An integer that is found is in the file. -/
theorem find?_of_integerAt?_some {values : Fields} {key : String} {i : Int}
    (h : integerAt? values key = .ok (some i)) : values.find? key = some (.int i) := by
  unfold integerAt? at h
  split at h
  · cases h
  · cases h
    assumption
  · cases h

/-- A text that is not found is not in the file. -/
theorem find?_of_textAt?_none {values : Fields} {key : String} (h : textAt? values key = .ok none) :
    values.find? key = none := by
  unfold textAt? at h
  split at h
  · assumption
  · cases h
  · cases h

/-- A text that is found is in the file. -/
theorem find?_of_textAt?_some {values : Fields} {key s : String} (h : textAt? values key = .ok (some s)) :
    values.find? key = some (.text s) := by
  unfold textAt? at h
  split at h
  · cases h
  · cases h
    assumption
  · cases h

/-! ## Variables -/

/-- What a variable tells about a setting. One that is malformed is a misfit where that cannot be told. -/
inductive Reading (α : Type) where
  | absent
  | malformed (error : String)
  | misfit
  | value (a : α)

namespace Reading

variable {α β : Type}

/-- A reading with another value. -/
def map (f : α → β) : Reading α → Reading β
  | absent => absent
  | malformed error => malformed error
  | misfit => misfit
  | value a => value (f a)

@[simp] theorem map_id (x : Reading α) : x.map id = x := by
  cases x <;> rfl

/-- The setting that a variable gives over a default. -/
def getD (default : α) : Reading α → α
  | value a => a
  | _ => default

@[simp] theorem getD_absent (default : α) : (absent : Reading α).getD default = default := rfl

@[simp] theorem getD_value (default a : α) : (value a).getD default = a := rfl

/-- What reading a variable finds. -/
def finding (key : String) (default : α) (shown : Value) : Reading α → Finding α
  | absent => ⟨.ok default, [.source key false shown], []⟩
  | malformed error => ⟨.ok default, [.malformed key error], [error]⟩
  | misfit => ⟨.error .tooManyDigits, [], []⟩
  | value a => ⟨.ok a, [.source key true shown], []⟩

/-- A reading is no misfit, so that the load goes on. -/
def Fits : Reading α → Prop
  | misfit => False
  | _ => True

/-- A reading that is no misfit gives the setting. -/
theorem result_finding {x : Reading α} (hfits : x.Fits) (key : String) (default : α) (shown : Value) :
    (x.finding key default shown).result = .ok (x.getD default) := by
  cases x with
  | misfit => exact hfits.elim
  | _ => rfl

/-- Reading a variable goes on only if it is no misfit. -/
theorem result_finding_eq_ok {key : String} {default a : α} {shown : Value} {x : Reading α}
    (h : (x.finding key default shown).result = .ok a) : x.Fits ∧ x.getD default = a := by
  cases x with
  | misfit => cases h
  | _ => exact ⟨trivial, Except.ok.inj h⟩

/-- Reading a variable fails for one reason only. -/
theorem result_finding_eq_error {key : String} {default : α} {shown : Value} {x : Reading α} {f : Fault}
    (h : (x.finding key default shown).result = .error f) : ¬ x.Fits ∧ f = .tooManyDigits := by
  cases x with
  | misfit => exact ⟨id, (Except.error.inj h).symm⟩
  | _ => cases h

theorem fits_map {f : α → β} {x : Reading α} : (x.map f).Fits ↔ x.Fits := by
  cases x <;> exact Iff.rfl

/-- A malformed variable, which is a misfit where one of the values in its message cannot be written. -/
def unlessMisfit (fits : Bool) (error : String) : Reading α := if fits then malformed error else misfit

theorem fits_unlessMisfit {fits : Bool} {error : String} :
    (unlessMisfit fits error : Reading α).Fits ↔ fits = true := by
  cases fits <;> simp [unlessMisfit, Fits]

theorem getD_unlessMisfit (default : α) (fits : Bool) (error : String) :
    (unlessMisfit fits error).getD default = default := by
  cases fits <;> rfl

theorem map_unlessMisfit (f : α → β) (fits : Bool) (error : String) :
    (unlessMisfit fits error).map f = unlessMisfit fits error := by
  cases fits <;> rfl

/-- The value of a variable as a flag. -/
def ofFlag (key : String) (default : Value) (raw : String) : Reading Bool :=
  match flag? raw with
  | some b => value b
  | none =>
    unlessMisfit default.fits
      (key ++ "='" ++ raw ++ "' is not a valid boolean, using default " ++ default.plain)

/-- The value of a variable as an integer. -/
def ofInteger (key : String) (default : Value) (least : Option Int) (raw : String) : Reading Int :=
  let bad : Reading Int :=
    unlessMisfit ((boundOf least).fits && default.fits)
      (key ++ "='" ++ raw ++ "' is not an integer >= " ++ (boundOf least).plain ++ ", using default "
        ++ default.plain)
  match integer? raw with
  | none => bad
  | some i => if least.any (i < ·) then bad else value i

/-- What a variable tells, where a blank one counts as not set. -/
def unlessBlank (f : String → Reading α) : Option String → Reading α
  | none => absent
  | some raw => if isBlankText raw then absent else f raw

/-- What a variable tells, where a blank one is a value like others. -/
def orAbsent (f : String → Reading α) : Option String → Reading α
  | none => absent
  | some raw => f raw

/-- The value of a variable as a text. -/
def ofText (raw : String) : Reading String := value (String.ofList (Text.trim raw.toList))

/-- A text is told as it is. -/
theorem fits_ofText (raw? : Option String) : (unlessBlank ofText raw?).Fits := by
  unfold unlessBlank
  split
  · trivial
  · split <;> trivial

/-- An integer is no misfit where the default and the least can be written. -/
theorem fits_ofInteger {default : Value} (hfits : default.fits = true) {least : Int}
    (hleast : (Value.int least).fits = true) (key : String) (raw? : Option String) :
    (unlessBlank (.ofInteger key default (some least)) raw?).Fits := by
  have hboth : ((Value.int least).fits && default.fits) = true := Bool.and_eq_true_iff.mpr ⟨hleast, hfits⟩
  unfold unlessBlank
  split
  · trivial
  · split
    · trivial
    · -- neither blank nor absent: a misfit only where a value of the message cannot be written
      unfold ofInteger
      dsimp only
      split
      · exact fits_unlessMisfit.mpr hboth
      · split
        · exact fits_unlessMisfit.mpr hboth
        · trivial

/-- A flag is no misfit where the default can be written. -/
theorem fits_ofFlag {default : Value} (hfits : default.fits = true) (key : String) (raw? : Option String) :
    (orAbsent (.ofFlag key default) raw?).Fits := by
  unfold orAbsent
  split
  · trivial
  · unfold ofFlag
    split
    · trivial
    · exact fits_unlessMisfit.mpr hfits

end Reading

namespace Reading

variable {α : Type} {m : Machine} (key : String) (default : α) (toValue : α → Value)

/-- The step of a load that takes a setting from what a variable tells. -/
def perform : Reading α → Load α
  | absent => unset key default toValue
  | malformed error => Settings.malformed key error default
  | misfit => throw .tooManyDigits
  | value a => do
    report (·.noteSource key true (toValue default))
    return a

/-- The step comes to what the reading finds. -/
theorem finds (x : Reading α) :
    Finds m (x.perform key default toValue) (x.finding key default (toValue default)) := by
  cases x with
  | absent => exact (Finds.noteSource key false (toValue default)).bind fun _ _ => .pure default
  | malformed error =>
      exact (Finds.warn error).bind fun _ _ => (Finds.noteMalformed key error).bind fun _ _ => .pure default
  | misfit => exact .throw .tooManyDigits
  | value a => exact (Finds.noteSource key true (toValue default)).bind fun _ _ => .pure a

theorem perform_unlessMisfit (fits : Bool) (error : String) :
    (unlessMisfit fits error).perform key default toValue =
      if fits then Settings.malformed key error default else throw .tooManyDigits := by
  cases fits <;> rfl

/-- Taking a flag from a variable is taking it from what the variable tells. -/
theorem flagVariable_eq (ofFlag : Bool → α) :
    flagVariable key default toValue ofFlag = variableNamed? key >>= fun raw? =>
      ((orAbsent (.ofFlag key (toValue default)) raw?).map ofFlag).perform key default toValue := by
  unfold flagVariable
  congr
  funext raw?
  cases raw? with
  | none => rfl
  | some raw =>
      unfold orAbsent Reading.ofFlag
      dsimp only
      cases flag? raw with
      | some b => rfl
      | none =>
          rw [map_unlessMisfit, perform_unlessMisfit]

/-- Likewise an integer. -/
theorem integerVariable_eq (ofInteger : Int → α) (least : Option Int) :
    integerVariable key default toValue ofInteger least = variableNamed? key >>= fun raw? =>
      ((unlessBlank (.ofInteger key (toValue default) least) raw?).map ofInteger).perform key default
        toValue := by
  unfold integerVariable
  congr
  funext raw?
  cases raw? with
  | none => rfl
  | some raw =>
      unfold unlessBlank Reading.ofInteger
      dsimp only
      split
      · rfl
      · cases integer? raw with
        | none =>
            dsimp only
            rw [map_unlessMisfit, perform_unlessMisfit]
        | some i =>
            dsimp only
            split
            · rw [map_unlessMisfit, perform_unlessMisfit]
            · rfl

/-- Likewise a text. -/
theorem textVariable_eq (ofText : String → α) :
    textVariable key default toValue ofText = variableNamed? key >>= fun raw? =>
      ((unlessBlank .ofText raw?).map ofText).perform key default toValue := by
  unfold textVariable
  congr
  funext raw?
  cases raw? with
  | none => rfl
  | some raw =>
      unfold unlessBlank
      dsimp only
      split <;> rfl

end Reading

namespace Finds

variable {α : Type} {m : Machine}

theorem variableNamed? (key : String) :
    Finds m (Settings.variableNamed? key) ⟨.ok (m.variableNamed? key), [], []⟩ :=
  get_bind (pure (m.variableNamed? key)) fun l hl => by rw [hl]

/-- A step that takes a setting from what a variable tells. -/
theorem reading (key : String) (default : α) (toValue : α → Value) (f : Option String → Reading α) :
    Finds m (Settings.variableNamed? key >>= fun raw? => (f raw?).perform key default toValue)
      ((f (m.variableNamed? key)).finding key default (toValue default)) :=
  (variableNamed? key).look_bind (Reading.finds ..)

/-- Taking a flag comes to what the variable tells. -/
theorem flagVariable (key : String) (default : α) (toValue : α → Value) (ofFlag : Bool → α) :
    Finds m (Settings.flagVariable key default toValue ofFlag)
      (((Reading.orAbsent (.ofFlag key (toValue default)) (m.variableNamed? key)).map ofFlag).finding key
        default (toValue default)) := by
  rw [Reading.flagVariable_eq]
  exact reading key default toValue fun raw? =>
    (Reading.orAbsent (.ofFlag key (toValue default)) raw?).map ofFlag

/-- Taking an integer comes to what the variable tells. -/
theorem integerVariable (key : String) (default : α) (toValue : α → Value) (ofInteger : Int → α)
    (least : Option Int) :
    Finds m (Settings.integerVariable key default toValue ofInteger least)
      (((Reading.unlessBlank (.ofInteger key (toValue default) least) (m.variableNamed? key)).map
        ofInteger).finding key default (toValue default)) := by
  rw [Reading.integerVariable_eq]
  exact reading key default toValue fun raw? =>
    (Reading.unlessBlank (.ofInteger key (toValue default) least) raw?).map ofInteger

/-- Taking a text comes to what the variable tells. -/
theorem textVariable (key : String) (default : α) (toValue : α → Value) (ofText : String → α) :
    Finds m (Settings.textVariable key default toValue ofText)
      (((Reading.unlessBlank .ofText (m.variableNamed? key)).map ofText).finding key default
        (toValue default)) := by
  rw [Reading.textVariable_eq]
  exact reading key default toValue fun raw? => (Reading.unlessBlank .ofText raw?).map ofText

end Finds

end EventHub.Settings
