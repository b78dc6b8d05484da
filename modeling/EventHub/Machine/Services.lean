import EventHub.Machine.EnvFile
import EventHub.Machine.Surroundings
import EventHub.Value
import EventHub.Yaml.Reader

/-! # Services

What a program leaves to others: a reader of settings files, a reader of the file of variables and the user
database. Each of them is a function of what it is given, of which nothing else is known; what a result needs
to know of one is a hypothesis of its own, such as `Services.Distinct` and `Services.Rereads`.

`Services.standard` is an instance for the files that a program usually has. Its reader of settings files
covers block and flow collections with plain and quoted scalars, and neither block scalars nor anchors, tags,
directives, merged keys and dates. Its reader of variables takes every name and every value.
-/

namespace EventHub

/-- An error from outside: the name of its class, and its text. -/
structure OutsideError where
  label : String
  text : String
deriving DecidableEq, Repr

/-- What reading a settings file comes to. -/
inductive SettingsRead where
  /-- The file holds a value. -/
  | value (v : Value)
  /-- The reader reports a malformed file. -/
  | malformed
  /-- The reader, or the decoding before it, ends with an error that is no such report. A mapping that
  contains itself is no value either: it is read, and going through it ends with an error. -/
  | fails (e : OutsideError)

/-- What reading the file of variables comes to: the variables it sets, and the error that ends it, if any.
The variables that come before an error are set. -/
structure VariablesRead where
  bindings : OrderedMap String (Option String) := []
  error? : Option OutsideError := none

/-- What a program leaves to others. -/
structure Services where
  /-- Reads the content of a settings file. -/
  readSettings : List UInt8 → SettingsRead
  /-- Finds and reads the file of variables. -/
  readVariables : Surroundings → VariablesRead
  /-- The home directory of a user; the empty name stands for the user who runs the program. -/
  homeOf : String → Option String

namespace Services

/-- The file of variables gives each variable once. -/
def Distinct (s : Services) : Prop := ∀ around, (s.readVariables around).bindings.keys.Nodup

/-- The file of variables that is read again, after the missing variables were set from it, sets no variable
and ends in the same way. -/
def Rereads (s : Services) : Prop :=
  ∀ around,
    let after := around.setMissing (s.readVariables around).bindings
    (s.readVariables after).error? = (s.readVariables around).error? ∧
      after.setMissing (s.readVariables after).bindings = after

end Services

/-! ## The standard services -/

/-- The text of a file's content, with plain line ends; none when it is not UTF-8. -/
def decodeText? (content : List UInt8) : Option (List Char) :=
  (String.fromUTF8? (ByteArray.mk content.toArray)).map fun s => Text.plainLines s.toList

/-- A text as the content of a file. -/
def encodeText (s : String) : List UInt8 := s.toUTF8.toList

namespace Services

/-- The error of a file that is not UTF-8. -/
def undecodable : OutsideError := ⟨"UnicodeDecodeError", ""⟩

/-- Reads a settings file as YAML. -/
def standardSettings (content : List UInt8) : SettingsRead :=
  match decodeText? content with
  | none => .fails undecodable
  | some text =>
    match Yaml.read? text with
    | none => .malformed
    | some v => .value v

/-- Reads the nearest file of variables, if there is one. -/
def standardVariables (around : Surroundings) : VariablesRead :=
  match around.nearestFile? ".env" with
  | none => {}
  | some content =>
    match decodeText? content with
    | none => { error? := some undecodable }
    | some text => { bindings := EnvFile.read around.variableNamed? text }

/-- The home directory of the administrator, who runs the program. -/
def standardHome (user : String) : Option String :=
  if user = "" ∨ user = "root" then some "/root" else none

/-- The services for the files that a program usually has. -/
def standard : Services where
  readSettings := standardSettings
  readVariables := standardVariables
  homeOf := standardHome

end Services

end EventHub
