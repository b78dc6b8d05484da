import EventHub.Machine.Files
import EventHub.Settings.Choices
import EventHub.Value

/-! # The configuration of a program

The settings with their built-in values, the merged values under dotted keys, and a report on where the
settings of the last load came from.
-/

namespace EventHub.Settings

/-- The settings in effect. -/
structure Effective where
  environment : Environment := .development
  logLevel : LogLevel := .info
  logJson : Option Bool := none
  logColors : Bool := true
  logDir : Option Path := none
  metricsEnabled : Bool := true
  validateActors : Bool := true
  warnUnknown : Bool := true
  maxEventNames : Int := 1000
  configFile : Option Path := none
deriving DecidableEq, Repr

/-- Where settings came from: for each variable whether it was set, the texts of those that were
malformed, and the defaults that were used. -/
structure Report where
  sources : OrderedMap String Bool := []
  malformed : OrderedMap String String := []
  defaults : Fields := []
  complete : Bool := false

/-- The state of the configuration. -/
structure Configuration where
  settings : Effective := {}
  values : Fields := []
  loaded : Bool := false
  report? : Option Report := none

/-- A flag that may be undecided, as a value. -/
def ofOptionalFlag : Option Bool → Value
  | some b => .bool b
  | none => .none

/-- A path that may be absent, as a value. -/
def ofOptionalPath : Option Path → Value
  | some p => .text p.text
  | none => .none

namespace Effective

/-- The settings under their dotted keys. -/
def merged (s : Effective) : Fields :=
  [("environment", .text s.environment.label), ("logging.level", .text s.logLevel.label),
    ("logging.json", ofOptionalFlag s.logJson), ("logging.colors", .bool s.logColors),
    ("logging.dir", ofOptionalPath s.logDir), ("mediator.metrics_enabled", .bool s.metricsEnabled),
    ("mediator.validate_actors", .bool s.validateActors),
    ("mediator.warn_unknown_unlisten", .bool s.warnUnknown),
    ("mediator.metrics_max_event_names", .int s.maxEventNames)]

/-- All settings by name. -/
def listing (s : Effective) : Fields :=
  [("ENVIRONMENT", .text s.environment.label), ("LOG_LEVEL", .text s.logLevel.label),
    ("LOG_JSON", ofOptionalFlag s.logJson), ("LOG_COLORS", .bool s.logColors),
    ("LOG_DIR", ofOptionalPath s.logDir), ("METRICS_ENABLED", .bool s.metricsEnabled),
    ("VALIDATE_ACTORS", .bool s.validateActors), ("WARN_UNKNOWN_UNLISTEN", .bool s.warnUnknown),
    ("METRICS_MAX_EVENT_NAMES", .int s.maxEventNames), ("CONFIG_FILE", ofOptionalPath s.configFile)]

/-- A summary of the settings for debugging. -/
def summary (s : Effective) : Fields :=
  [("environment", .text s.environment.label), ("log_level", .text s.logLevel.label),
    ("log_json", ofOptionalFlag s.logJson), ("log_dir", ofOptionalPath s.logDir),
    ("metrics_enabled", .bool s.metricsEnabled), ("validate_actors", .bool s.validateActors),
    ("warn_unknown_unlisten", .bool s.warnUnknown),
    ("metrics_max_event_names", .int s.maxEventNames), ("config_file", ofOptionalPath s.configFile)]

/-- Whether the program runs in production. -/
def isProduction (s : Effective) : Bool := s.environment = .production

/-- Whether the program runs under test. -/
def isTesting (s : Effective) : Bool := s.environment = .testing

end Effective

namespace Report

/-- Notes whether a variable was set, and its default when it was not. -/
def noteSource (r : Report) (key : String) (fromVariable : Bool) (default : Value) : Report :=
  let r := { r with sources := r.sources.insert key fromVariable }
  if fromVariable then r else { r with defaults := r.defaults.insert key default }

/-- Notes a malformed variable. -/
def noteMalformed (r : Report) (key error : String) : Report :=
  { r with malformed := r.malformed.insert key error }

end Report

/-- The value under a dotted key; a value of nothing counts as absent. -/
def Configuration.value? (c : Configuration) (key : String) : Option Value :=
  match c.values.find? key with
  | some .none => none
  | v => v

end EventHub.Settings
