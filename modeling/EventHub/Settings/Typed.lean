import EventHub.Fault
import EventHub.Settings.Choices

/-! # Settings of a type

The values of a settings file are typed: a flag is a boolean or the spelling of one, a limit is an
integer, all others are text. A value of another type is a fault, also where the setting would come
from elsewhere. The fault tells the value, and is another one where that has too many digits to be told.
-/

namespace EventHub.Settings

/-- The fault of a value of the wrong type. -/
def wrongType (key : String) (wanted : SettingType) (v : Value) : Fault :=
  if v.fits then .wrongSetting key wanted v else .tooManyDigits

/-- The value of a key as a flag, if the key is present. -/
def flagAt? (values : Fields) (key : String) : Except Fault (Option Bool) :=
  match values.find? key with
  | none => .ok none
  | some v =>
    match v with
    | .bool b => .ok (some b)
    | .text s =>
      match flag? s with
      | some b => .ok (some b)
      | none => .error (wrongType key .boolean v)
    | v => .error (wrongType key .boolean v)

/-- The value of a key as an integer, if the key is present. -/
def integerAt? (values : Fields) (key : String) : Except Fault (Option Int) :=
  match values.find? key with
  | none => .ok none
  | some (.int i) => .ok (some i)
  | some v => .error (wrongType key .integer v)

/-- The value of a key as text, if the key is present. -/
def textAt? (values : Fields) (key : String) : Except Fault (Option String) :=
  match values.find? key with
  | none => .ok none
  | some (.text s) => .ok (some s)
  | some v => .error (wrongType key .string v)

end EventHub.Settings
