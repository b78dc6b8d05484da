import EventHub.Json
import EventHub.Log.Clock
import EventHub.Log.Message

/-! # Log records

A record carries a message and named attributes. Six of them tell which publish and which actor it
belongs to; they are stamped from the current log context. A record is written as one line of JSON or
as a line for the console.
-/

namespace EventHub.Log

/-- The attributes that tie a record to a publish, in the order in which they are written. -/
def dispatchFields : List String :=
  ["correlation_id", "component", "operation", "event_name", "pattern", "actor_id"]

/-- What stands for a dispatch field that is not set. -/
def missingMark : String := "-"

/-- The names that every record uses for itself. -/
def ownNames : List String :=
  ["name", "msg", "args", "levelname", "levelno", "pathname", "filename", "module", "exc_info",
    "exc_text", "stack_info", "lineno", "funcName", "created", "msecs", "relativeCreated", "thread",
    "threadName", "processName", "process", "message", "asctime"]

/-- A log record. Its attributes are the extra fields given with the message and the dispatch fields
once they are stamped. -/
structure Record where
  logger : String
  level : Int
  message : Value
  args : List Value := []
  attributes : Fields := []
  fault? : Option Fault := none
  faultText : String := ""
  created : Moment

/-- The moment at which all records of a session are made. -/
def sessionMoment : Moment := .whole 1700000000

/-- The first extra field that clashes with a name of the record itself. -/
def clash? (extra : Fields) : Option String := extra.keys.find? (ownNames.contains ·)

/-- The name of a level. -/
def levelName (level : Int) : String :=
  if level = 0 then "NOTSET"
  else if level = 10 then "DEBUG"
  else if level = 20 then "INFO"
  else if level = 30 then "WARNING"
  else if level = 40 then "ERROR"
  else if level = 50 then "CRITICAL"
  else "Level " ++ (Value.int level).plain

namespace Record

/-! ## Stamping -/

/-- The value of an attribute that is set to something. -/
def attribute? (fields : Fields) (name : String) : Option Value :=
  match fields.find? name with
  | some .none => none
  | v => v

/-- The value of a dispatch field: the one of the context, or else the record's own, or else the mark
of a missing one. -/
def stampOf (context attributes : Fields) (name : String) : Value :=
  match attribute? context name with
  | some v => v
  | none => (attribute? attributes name).getD (.text missingMark)

/-- A record with its dispatch fields stamped. -/
def stamped (context : Fields) (r : Record) : Record :=
  let stamp (attributes : Fields) (name : String) : Fields :=
    attributes.insert name (stampOf context attributes name)
  { r with attributes := dispatchFields.foldl stamp r.attributes }

/-! ## JSON -/

mutual

/-- A value as JSON. What JSON has no form for is written in its plain form. -/
def toJson : Value → Json
  | .none => .null
  | .bool b => .bool b
  | .int i => .int i
  | .float x => .real x
  | .text s => .text s
  | .bytes bs => .text (Value.bytes bs).plain
  | .list items => .array (toJsonItems items)
  | .dict bindings => .object (toJsonBindings bindings)
  | .event e => .text e.name
  | .foreign x => .text x.plain

/-- The items of a list as JSON. -/
def toJsonItems : List Value → List Json
  | [] => []
  | v :: vs => toJson v :: toJsonItems vs

/-- The bindings of a dictionary as JSON. -/
def toJsonBindings : List (Value × Value) → List (String × Json)
  | [] => []
  | (k, v) :: rest => (keyText k, toJson v) :: toJsonBindings rest

/-- The text of a key; the constants are spelled as JSON spells them. -/
def keyText : Value → String
  | .none => "null"
  | .bool b => if b then "true" else "false"
  | .int i => (Value.int i).plain
  | .float x => String.ofList (x.text "NaN".toList "Infinity".toList)
  | .text s => s
  | v => v.plain

end

/-- Whether a dispatch field is written: it is set, and not to the mark of a missing one. -/
def isSet (v : Value) : Bool :=
  match v with
  | .none => false
  | v => !v.isText missingMark

/-- The dispatch fields that are set. -/
def dispatchParts (attributes : Fields) : List (String × Json) :=
  dispatchFields.filterMap fun name =>
    match attributes.find? name with
    | some v => if isSet v then some (name, toJson v) else none
    | none => none

/-- Whether an attribute is an extra field to be written. -/
def isExtra (name : String) : Bool :=
  name ≠ "taskName" && !dispatchFields.contains name && !"_".isPrefixOf name

/-- The extra fields. -/
def extraParts (attributes : Fields) : List (String × Json) :=
  (attributes.filter fun b => isExtra b.1).map fun b => (b.1, toJson b.2)

/-- The text of the record's exception, if it has one. Where there is a traceback, its last line stands for the
whole of it here: the lines before tell where in the program the exception came from, and faults carry no
places. -/
def exceptionText? (r : Record) : Option String :=
  match r.fault? with
  | some f => some f.headline
  | none => if r.faultText = "" then none else some r.faultText

/-- Everything that is written of a record but its time. -/
def parts (r : Record) : Except Fault (List (String × Json)) := do
  let message ← messageText r.message r.args
  let extra := extraParts r.attributes
  let exception := match r.exceptionText? with
    | some s => [("exception", Json.text s)]
    | none => []
  return [("level", .text (levelName r.level)), ("logger", .text r.logger), ("message", .text message)]
    ++ dispatchParts r.attributes ++ (if extra.isEmpty then [] else [("extra", .object extra)])
    ++ exception

/-- A record as one line of JSON. -/
def jsonLine (r : Record) : Except Fault String := do
  let stamp ← r.created.stamp
  let parts ← r.parts
  return String.ofList (Json.object (("timestamp", .text stamp) :: parts)).write

/-! ## Console -/

/-- The colour of a level, as terminal control codes. -/
def colour? (level : Int) : Option String :=
  let escape := String.ofList [Char.ofNat 27]
  if level = 10 then some (escape ++ "[90m")
  else if level = 20 then some (escape ++ "[94m")
  else if level = 30 then some (escape ++ "[93m")
  else if level = 40 then some (escape ++ "[91m")
  else if level = 50 then some (escape ++ "[91m" ++ escape ++ "[1m")
  else none

/-- The control code that ends a colour. -/
def colourEnd : String := String.ofList [Char.ofNat 27] ++ "[0m"

/-- The name of a level, at least five characters wide, in its colour. -/
def levelColumn (colours : Bool) (level : Int) : String :=
  let name := levelName level
  let padded := name ++ String.ofList (List.replicate (5 - name.length) ' ')
  if colours then
    match colour? level with
    | some c => c ++ padded ++ colourEnd
    | none => padded
  else padded

/-- The plain form of a dispatch field, or the mark of a missing one. -/
def scopeText (attributes : Fields) (name : String) : String :=
  match attributes.find? name with
  | some v => v.plain
  | none => missingMark

/-- Which publish a record belongs to, and which actor. -/
def scope (attributes : Fields) : String :=
  let publish := scopeText attributes "correlation_id" ++ " " ++ scopeText attributes "event_name"
  match attributes.find? "actor_id" with
  | some v => if v.isText missingMark then publish else publish ++ " -> " ++ v.plain
  | none => publish

/-- A record as a line for the console, with the text of its exception on lines of its own. -/
def consoleLine (colours : Bool) (r : Record) : Except Fault String := do
  let time ← r.created.clock
  let message ← messageText r.message r.args
  let head := time ++ " " ++ levelColumn colours r.level ++ " " ++ r.logger ++ " ["
    ++ scope r.attributes ++ "] " ++ message
  return match r.exceptionText? with
    | some s => head ++ "\n" ++ s
    | none => head

end Record

end EventHub.Log
