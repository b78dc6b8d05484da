import EventHub.Callable.Binding
import EventHub.Fault.Class
import EventHub.Machine.Files
import EventHub.Pattern

/-! # Faults

Everything that can go wrong, by its cause. A fault has a class name, a text and a literal form; the
faults of the event hub itself also carry details, a severity and a stable code. Host code may raise
errors whose text or literal form fails, so `describe` falls back from the one to the other and then
to the class name.
-/

namespace EventHub

/-- How serious a fault is. -/
inductive Severity where
  | debug
  | info
  | warning
  | error
  | critical
deriving DecidableEq, Repr

namespace Severity

/-- The name of a severity. -/
def label : Severity → String
  | .debug => "debug"
  | .info => "info"
  | .warning => "warning"
  | .error => "error"
  | .critical => "critical"

/-- The severity with a name. -/
def ofLabel? (s : String) : Option Severity :=
  [debug, info, warning, error, critical].find? (·.label = s)

end Severity

/-- Why a settings file cannot be used. -/
inductive SettingsFileError where
  | unreadable (e : FileError)
  | malformed
  | notMapping (typeName : String)

/-- The type a setting has to have. -/
inductive SettingType where
  | boolean
  | integer
  | string
deriving DecidableEq, Repr

/-- The name of a setting's type with its article. -/
def SettingType.label : SettingType → String
  | .boolean => "a boolean"
  | .integer => "an integer"
  | .string => "a string"

/-- A fault. -/
inductive Fault where
  /-- An error that host code raised. -/
  | thrown (cls : ErrorClass) (args : List Value)
  /-- A general fault of the hub, as host code may raise it too. -/
  | misuse (message details : Value) (severity : Severity) (code : Value)
  /-- A pattern that cannot be compiled. -/
  | invalidPattern (subject reason : String)
  /-- A callback that cannot be an actor. -/
  | invalidActor (actor : Value) (reason : String)
  /-- An attempt to act on an entry that was cleared. -/
  | staleEntry (pattern : String)
  /-- A failure of an actor. -/
  | actorFailed (event pattern actor : String) (cause : Fault)
  /-- The warning about a pattern that was never listened to, raised as an error. -/
  | neverListened (pattern : String)
  /-- A call whose arguments do not fit. -/
  | badCall (e : CallError)
  /-- An event name that is no text. -/
  | nameNotText (typeName : String)
  /-- An emitter that cannot be called. -/
  | emitterNotCallable (typeName : String)
  /-- A limit on event names below one. -/
  | limitTooSmall (limit : Int)
  /-- A ratio that no floating-point number can hold. -/
  | ratioTooLarge
  /-- A severity that does not exist. -/
  | unknownSeverity (name : Value)
  /-- A settings file that cannot be used. -/
  | settingsFile (path : String) (e : SettingsFileError)
  /-- An error of a service. -/
  | outside (e : OutsideError)
  /-- An integer with too many digits to be written. -/
  | tooManyDigits
  /-- A setting of the wrong type. -/
  | wrongSetting (key : String) (wanted : SettingType) (value : Value)
  /-- A home directory that is not known. -/
  | unknownHome
  /-- The name of a user with a null character in it. -/
  | nullInName
  /-- A failed operation on a file. -/
  | file (e : FileError) (path : String)
  /-- An extra field that clashes with a field of every record. -/
  | reservedField (name : String)
  /-- A message whose arguments do not fit its places. -/
  | badMessage (cls : ErrorClass) (reason : String)
  /-- A date that is out of range. -/
  | badDate (cls : ErrorClass) (reason : String)

namespace Fault

/-! ## Kinds -/

/-- Whether a fault asks the program to stop, and so is never held back. -/
def isInterrupt : Fault → Bool
  | .thrown cls _ => cls.isInterrupt
  | _ => false

/-- Whether a fault comes from loading the settings. -/
def isSettingsFault : Fault → Bool
  | .settingsFile .. => true
  | .wrongSetting .. => true
  | _ => false

/-! ## Text -/

/-- The literal form of several arguments. -/
def argumentList (args : List Value) : String :=
  "(" ++ ", ".intercalate (args.map Value.literal) ++ ")"

/-- The arguments of a call of a constructor. -/
def constructorForm (label : String) (args : List Value) : String := label ++ argumentList args

/-- The text of an ordinary error: its only argument, or all of them. -/
def ordinaryText : List Value → String
  | [] => ""
  | [v] => v.plain
  | args => argumentList args

/-- Whether the third argument of a system error tells how much was written rather than a file. -/
def tellsAmount (cls : SystemClass) (v : Value) : Bool :=
  cls = .blocking && match v with
    | .int _ => true
    | .bool _ => true
    | _ => false

/-- The text of a system error: number and reason, with the file it is about. -/
def systemText (cls : SystemClass) : List Value → String
  | number :: reason :: rest =>
    if 3 < rest.length then argumentList (number :: reason :: rest) else
    let head := "[Errno " ++ number.plain ++ "] " ++ reason.plain
    if (rest.head?.getD .none |> tellsAmount cls) then head else
    match rest with
    | [] => head
    | .none :: _ => head
    | [path, _, .none] => head ++ ": " ++ path.literal
    | [path, _, other] => head ++ ": " ++ path.literal ++ " -> " ++ other.literal
    | path :: _ => head ++ ": " ++ path.literal
  | args => ordinaryText args

/-- The text of an error that host code raised, unless it has none. -/
def thrownText? (cls : ErrorClass) (args : List Value) : Option String :=
  match cls with
  | .unprintable => none
  | .unrenderable => none
  | .keyError =>
    match args with
    | [v] => some v.literal
    | args => some (ordinaryText args)
  | .system c => some (systemText c args)
  | _ => some (ordinaryText args)

/-- The arguments that a system error keeps: a file is no longer among them. -/
def keptArgs (cls : ErrorClass) (args : List Value) : List Value :=
  match cls, args with
  | .system c, number :: reason :: path :: rest =>
    match path with
    | .none => args
    | _ => if 2 < rest.length || tellsAmount c path then args else [number, reason]
  | _, _ => args

/-- The literal form of an error that host code raised, unless it has none. -/
def thrownLiteral? (cls : ErrorClass) (args : List Value) : Option String :=
  match cls with
  | .unrenderable => none
  | _ => some (constructorForm cls.label (keptArgs cls args))

/-- The text of a failed operation on a file. -/
def fileText (e : FileError) (path : String) : String :=
  "[Errno " ++ toString e.number ++ "] " ++ e.reason ++ ": " ++ (Value.text path).literal

/-- The wording of a settings file that cannot be used. -/
def settingsFileText (path : String) : SettingsFileError → String
  | .unreadable e => "Cannot read config file " ++ path ++ ": " ++ fileText e path
  | .malformed => "Invalid YAML in config file " ++ path
  | .notMapping typeName => "Config file " ++ path ++ " must contain a mapping, got " ++ typeName

/-- How a fault shows itself. -/
structure Rendering where
  label : String
  message : Value
  details : Value
  severity : Severity
  code : Value
  text? : Option String
  literal? : Option String

namespace Rendering

/-- The text, or the literal form, or else the name of the class. -/
def describe (r : Rendering) : String :=
  match r.text? with
  | some s => s
  | none => r.literal?.getD ("<unprintable " ++ r.label ++ ">")

/-- An error without details: its text is its message. -/
def simple (label message : String) : Rendering where
  label := label
  message := .text message
  details := .dict []
  severity := .error
  code := .text label
  text? := some message
  literal? := some (constructorForm label [.text message])

/-- A fault of the hub's own kind: its text is its code, its message and its details, when there are
any. -/
def structured (label : String) (message details : Value) (severity : Severity) (code : Value) :
    Rendering where
  label := label
  message := message
  details := details
  severity := severity
  code := code
  text? := some ("[" ++ code.plain ++ "] " ++ message.plain
    ++ (if details.isTruthy then " | Details: " ++ details.plain else ""))
  literal? := some (label ++ "(message=" ++ message.literal ++ ", details=" ++ details.literal
    ++ ", severity=" ++ (Value.text severity.label).literal ++ ")")

end Rendering

/-- How an error that host code raised shows itself. -/
def thrownRendering (cls : ErrorClass) (args : List Value) : Rendering :=
  { Rendering.simple cls.label ((thrownText? cls args).getD "") with
    text? := thrownText? cls args, literal? := thrownLiteral? cls args }

/-- The named parts of the details of a fault. -/
def detailsOf (fs : Fields) : Value := Value.ofFields fs

/-- How a fault shows itself. The failure of an actor describes its cause. -/
def rendering : Fault → Rendering
  | .thrown cls args => thrownRendering cls args
  | .misuse message details severity code =>
    .structured "MediatorError" message (if details.isTruthy then details else .dict []) severity
      (if code.isTruthy then code else .text "MediatorError")
  | .invalidPattern subject reason =>
    .structured "InvalidPatternError" (.text ("Invalid pattern \"" ++ subject ++ "\": " ++ reason))
      (detailsOf [("pattern", .text subject), ("reason", .text reason)]) .warning
      (.text "INVALID_PATTERN")
  | .invalidActor actor reason =>
    .structured "InvalidActorError"
      (.text ("Invalid actor '" ++ actor.plain ++ "': " ++ reason))
      (detailsOf [("actor", actor), ("reason", .text reason)]) .warning (.text "INVALID_ACTOR")
  | .staleEntry pattern =>
    .structured "ChainStateError"
      (.text ("Cannot act on '" ++ pattern ++ "': its entry was cleared; call listen() again"))
      (detailsOf [("pattern", .text pattern)]) .error (.text "STALE_CHAIN")
  | .actorFailed event pattern actor cause =>
    let r := rendering cause
    .structured "ActorInvocationError"
      (.text ("Actor '" ++ actor ++ "' failed for event '" ++ event ++ "': " ++ r.describe))
      (detailsOf [("event_name", .text event), ("pattern", .text pattern), ("actor_id", .text actor),
        ("error", .text r.describe), ("error_type", .text r.label)])
      .error (.text "ACTOR_INVOCATION_FAILED")
  | .neverListened pattern =>
    .simple "UnknownPatternWarning" ("unlisten() of pattern '" ++ pattern ++ "' that was never listened")
  | .badCall e => .simple "TypeError" e.message
  | .nameNotText typeName => .simple "TypeError" ("event_name must be a str, got " ++ typeName)
  | .emitterNotCallable typeName => .simple "TypeError" ("emit must be callable, got " ++ typeName)
  | .limitTooSmall limit =>
    .simple "ValueError" ("max_event_names must be >= 1, got " ++ (Value.int limit).plain)
  | .ratioTooLarge => .simple "OverflowError" "integer division result too large for a float"
  | .unknownSeverity name => .simple "ValueError" (name.literal ++ " is not a valid ErrorSeverity")
  | .settingsFile path e => .simple "ConfigLoadError" (settingsFileText path e)
  | .outside e => .simple e.label e.text
  | .tooManyDigits =>
    .simple "ValueError" ("Exceeds the limit (" ++ toString Num.digitLimit ++ " digits) for integer string "
      ++ "conversion; use sys.set_int_max_str_digits() to increase the limit")
  | .wrongSetting key wanted value =>
    .simple "ConfigValidationError"
      ("Config key '" ++ key ++ "' must be " ++ wanted.label ++ ", got " ++ value.literal)
  | .unknownHome => .simple "RuntimeError" "Could not determine home directory."
  | .nullInName => .simple "ValueError" "embedded null byte"
  | .file e path => .simple (SystemClass.ofNumber e.number).label (fileText e path)
  | .reservedField name =>
    thrownRendering .keyError
      [.text ("Attempt to overwrite " ++ (Value.text name).literal ++ " in LogRecord")]
  | .badMessage cls reason => .simple cls.label reason
  | .badDate cls reason => .simple cls.label reason

/-- The name of the class of a fault. -/
def className (f : Fault) : String := f.rendering.label

/-- The text of a fault, or its literal form, or else the name of its class. -/
def describe (f : Fault) : String := f.rendering.describe

/-- The general classes among four that a fault belongs to, in alphabetical order. -/
def families : Fault → List String
  | .misuse .. => ["MediatorError"]
  | .invalidPattern .. => ["MediatorError", "ValueError"]
  | .invalidActor .. => ["MediatorError", "TypeError"]
  | .staleEntry _ => ["MediatorError", "RuntimeError"]
  | .actorFailed .. => ["MediatorError"]
  | f => [f.className].filter (["RuntimeError", "TypeError", "ValueError"].contains ·)

/-- The module of a fault's class; the general classes need none. -/
def home? : Fault → Option String
  | .thrown cls _ => cls.home?
  | .misuse .. => some "mediator.exceptions"
  | .invalidPattern .. => some "mediator.exceptions"
  | .invalidActor .. => some "mediator.exceptions"
  | .staleEntry _ => some "mediator.exceptions"
  | .actorFailed .. => some "mediator.exceptions"
  | .neverListened _ => some "mediator.exceptions"
  | .settingsFile .. => some "mediator.config.errors"
  | .wrongSetting .. => some "mediator.config.errors"
  | _ => none

/-- A fault on a line: its class with the module, and its text unless that is empty. -/
def headline (f : Fault) : String :=
  let r := f.rendering
  let label := match f.home? with
    | some m => m ++ "." ++ r.label
    | none => r.label
  match r.text? with
  | some "" => label
  | some s => label ++ ": " ++ s
  | none => label ++ ": <exception str() failed>"

/-- A fault as a dictionary. -/
def toFields (f : Fault) : Fields :=
  let r := f.rendering
  [("error_type", .text r.label), ("error_code", r.code), ("message", r.message),
    ("details", r.details), ("severity", .text r.severity.label)]

/-- The fault of a refused pattern. -/
def ofPatternError (e : PatternError) : Fault := .invalidPattern e.subject e.reason

/-- An error that host code raises. A system error with a number and a reason belongs to the special
class of its number. -/
def throw (cls : ErrorClass) (args : List Value) : Fault :=
  match cls, args with
  | .system .general, number :: _ :: rest =>
    match number.number? with
    | some (.inl n) => .thrown (.system (if rest.length ≤ 3 then .ofNumber n else .general)) args
    | _ => .thrown cls args
  | _, _ => .thrown cls args

end Fault

end EventHub
