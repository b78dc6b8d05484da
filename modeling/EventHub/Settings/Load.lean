import EventHub.Settings.Configuration
import EventHub.Settings.Flatten
import EventHub.Settings.Typed

/-! # Loading the configuration

Settings come from environment variables, then from an optional settings file, then from built-in
values. Variables may themselves come from a file in the working directory or around it, which never
overrides one that is set. A malformed variable is reported and passed over; a settings file that
cannot be read, or holds a value of the wrong type, is a fault. A load that fails leaves the settings
that were assigned before.
-/

namespace EventHub.Settings

/-- What a load reads and changes, and the warnings it gives. -/
structure Loading where
  machine : Machine
  configuration : Configuration
  warnings : List String := []

/-- Steps of a load; what they changed stays when they fail. -/
abbrev Load := ExceptT Fault (StateM Loading)

/-! ## Bookkeeping -/

/-- Gives a warning. -/
def warn (message : String) : Load Unit :=
  modify fun l => { l with warnings := l.warnings ++ [message] }

/-- Changes the configuration. -/
def configure (f : Configuration → Configuration) : Load Unit :=
  modify fun l => { l with configuration := f l.configuration }

/-- Changes the settings. -/
def assign (f : Effective → Effective) : Load Unit :=
  configure fun c => { c with settings := f c.settings }

/-- Changes the report, which is begun when there is none. -/
def report (f : Report → Report) : Load Unit :=
  configure fun c => { c with report? := some (f (c.report?.getD {})) }

/-- The value of an environment variable. -/
def variableNamed? (key : String) : Load (Option String) := do
  return (← get).machine.variableNamed? key

/-! ## Variables of a type -/

/-- Whether a text holds nothing but white space. -/
def isBlankText (s : String) : Bool := s.toList.all Text.isBlank

/-- The value of a variable that is not set. -/
def unset {α : Type} (key : String) (default : α) (toValue : α → Value) : Load α := do
  report (·.noteSource key false (toValue default))
  return default

/-- The value in place of a malformed variable. -/
def malformed {α : Type} (key error : String) (default : α) : Load α := do
  warn error
  report (·.noteMalformed key error)
  return default

/-- A flag from a variable. -/
def flagVariable {α : Type} (key : String) (default : α) (toValue : α → Value) (ofFlag : Bool → α) :
    Load α := do
  match ← variableNamed? key with
  | none => unset key default toValue
  | some raw =>
    match flag? raw with
    | none =>
      if (toValue default).fits then
        malformed key (key ++ "='" ++ raw ++ "' is not a valid boolean, using default "
          ++ (toValue default).plain) default
      else throw .tooManyDigits
    | some b =>
      report (·.noteSource key true (toValue default))
      return ofFlag b

/-- The least that a variable may be, as the value that a message tells. -/
def boundOf : Option Int → Value
  | some i => .int i
  | none => .none

/-- An integer from a variable, at least `least` where that is given. A blank variable counts as not
set. -/
def integerVariable {α : Type} (key : String) (default : α) (toValue : α → Value) (ofInteger : Int → α)
    (least : Option Int) : Load α := do
  match ← variableNamed? key with
  | none => unset key default toValue
  | some raw =>
    if isBlankText raw then unset key default toValue
    else
      let bad : Load α :=
        if (boundOf least).fits && (toValue default).fits then
          malformed key (key ++ "='" ++ raw ++ "' is not an integer >= " ++ (boundOf least).plain
            ++ ", using default " ++ (toValue default).plain) default
        else throw .tooManyDigits
      match integer? raw with
      | none => bad
      | some i =>
        if least.any (i < ·) then bad
        else
          report (·.noteSource key true (toValue default))
          return ofInteger i

/-- A text from a variable, without white space around it. A blank variable counts as not set. -/
def textVariable {α : Type} (key : String) (default : α) (toValue : α → Value) (ofText : String → α) :
    Load α := do
  match ← variableNamed? key with
  | none => unset key default toValue
  | some raw =>
    if isBlankText raw then unset key default toValue
    else
      report (·.noteSource key true (toValue default))
      return ofText (String.ofList (Text.trim raw.toList))

/-- The home directory of a user: the variable tells that of the user who runs the program, and the user
database all others. -/
def homeOf (m : Machine) (user : String) : Option String :=
  if user = "" then (m.variableNamed? "HOME").or (m.services.homeOf user) else m.services.homeOf user

/-- The path that a text writes, with the home directory in place of a tilde. -/
def pathOf (s : String) : Load Path := do
  let p := Path.ofText s
  if p.user?.any (·.toList.contains (Char.ofNat 0)) then throw .nullInName
  match p.expandHome? (homeOf (← get).machine) with
  | some p => return p
  | none => throw .unknownHome

/-- A path from a variable. -/
def pathVariable (key : String) : Load (Option Path) := do
  let raw ← textVariable key "" Value.text id
  if raw = "" then return none
  return some (← pathOf raw)

/-! ## The settings file -/

/-- The flat values of a settings file. -/
def fileValues (p : Path) : Load Fields := do
  let m := (← get).machine
  match m.readFile p with
  | .error e => throw (.settingsFile p.text (.unreadable e))
  | .ok content =>
    match m.services.readSettings content with
    | .malformed => throw (.settingsFile p.text .malformed)
    | .fails e => throw (.outside e)
    | .value .none => return []
    | .value (.dict bindings) =>
      if bindingKeysFit bindings then return flatten "" bindings else throw .tooManyDigits
    | .value v => throw (.settingsFile p.text (.notMapping v.typeName))

/-! ## The load -/

/-- Sets the variables of the file of variables that are not set yet. -/
def loadVariables : Load Unit := do
  let given := (← get).machine.given
  modify fun l => { l with machine := l.machine.equipped }
  match given.error? with
  | none => return
  | some e => throw (.outside e)

/-- The environment that a text names, or development with a warning. -/
def environmentOf (s : String) : Load Environment := do
  match Environment.ofLabel? s with
  | some e => return e
  | none =>
    warn (unknownEnvironment s)
    return .development

/-- The log level that a text names, whatever its case; an unknown one is malformed. -/
def logLevelOf (s : String) : Load LogLevel := do
  let name := String.ofList (Text.upper s.toList)
  match LogLevel.ofLabel? name with
  | some level => return level
  | none => malformed "MEDIATOR_LOG_LEVEL" (invalidLogLevel name) .info

/-- A flag from a variable, or from the file, or else built in. -/
def flagSetting (values : Fields) (name key : String) (builtIn : Bool) : Load Bool := do
  let default := (← flagAt? values key).getD builtIn
  flagVariable name default Value.bool id

/-- A text from a variable, or from the file, or else built in. -/
def textSetting (values : Fields) (name key builtIn : String) : Load String := do
  let default := (← textAt? values key).getD builtIn
  textVariable name default Value.text id

/-- Loads all settings. -/
def load : Load Unit := do
  loadVariables
  configure fun c => { c with report? := some {} }
  let file ← pathVariable "MEDIATOR_CONFIG_FILE"
  assign fun s => { s with configFile := file }
  let values ← match file with
    | some p => fileValues p
    | none => pure []
  let environment ← environmentOf (← textSetting values "MEDIATOR_ENVIRONMENT" "environment" "development")
  assign fun s => { s with environment := environment }
  let level ← logLevelOf (← textSetting values "MEDIATOR_LOG_LEVEL" "logging.level" "INFO")
  assign fun s => { s with logLevel := level }
  let json ← flagAt? values "logging.json"
  let json ← flagVariable "MEDIATOR_LOG_JSON" json ofOptionalFlag some
  assign fun s => { s with logJson := json }
  let colors ← flagSetting values "MEDIATOR_LOG_COLORS" "logging.colors" true
  assign fun s => { s with logColors := colors }
  let dir ← pathVariable "MEDIATOR_LOG_DIR"
  assign fun s => { s with logDir := dir }
  if dir.isNone then
    match ← textAt? values "logging.dir" with
    | some text =>
      let dir ← pathOf text
      assign fun s => { s with logDir := some dir }
    | none => pure ()
  let metrics ← flagSetting values "MEDIATOR_METRICS_ENABLED" "mediator.metrics_enabled" true
  assign fun s => { s with metricsEnabled := metrics }
  let validate ← flagSetting values "MEDIATOR_VALIDATE_ACTORS" "mediator.validate_actors" true
  assign fun s => { s with validateActors := validate }
  let warnings ←
    flagSetting values "MEDIATOR_WARN_UNKNOWN_UNLISTEN" "mediator.warn_unknown_unlisten" true
  assign fun s => { s with warnUnknown := warnings }
  let names := (← integerAt? values "mediator.metrics_max_event_names").getD 1000
  let names ← integerVariable "MEDIATOR_METRICS_MAX_EVENT_NAMES" names Value.int id (some 1)
  assign fun s => { s with maxEventNames := names }
  configure fun c => { c with values := OrderedMap.insertAll values c.settings.merged }
  report fun r => { r with complete := true }
  configure fun c => { c with loaded := true }

/-- Loads the settings unless that was done. -/
def ensureLoaded : Load Unit := do
  if (← get).configuration.loaded then return
  load

/-- The value under a dotted key, or a default. -/
def lookup (key : String) (default : Value) : Load Value := do
  ensureLoaded
  return ((← get).configuration.value? key).getD default

end EventHub.Settings
