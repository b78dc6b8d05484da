import EventHub.Text.Blank
import EventHub.Text.Case
import EventHub.Text.Digit
import EventHub.Num.Decimal

/-! # Settings with a fixed set of values

How the text of a setting is read as a flag, as an environment, as a log level or as an integer.
-/

namespace EventHub.Settings

/-! ## Flags -/

/-- The spellings of a flag that is on. -/
def onWords : List String := ["true", "yes", "1", "on"]

/-- The spellings of a flag that is off. -/
def offWords : List String := ["false", "no", "0", "off"]

/-- A text without white space around it, in lower case. -/
def normalized (s : String) : String := String.ofList (Text.trim (Text.lower s.toList))

/-- The flag that a text spells, whatever its case. -/
def flag? (s : String) : Option Bool :=
  if onWords.contains (normalized s) then some true
  else if offWords.contains (normalized s) then some false
  else none

/-! ## Environments -/

/-- Where the program runs. -/
inductive Environment where
  | development
  | testing
  | staging
  | production
deriving DecidableEq, Repr

/-- The name of an environment. -/
def Environment.label : Environment → String
  | .development => "development"
  | .testing => "testing"
  | .staging => "staging"
  | .production => "production"

/-- The environment that a text names, whatever its case. -/
def Environment.ofLabel? (s : String) : Option Environment :=
  [development, testing, staging, production].find? fun e =>
    e.label = String.ofList (Text.lower s.toList)

/-- The warning about a text that names no environment. -/
def unknownEnvironment (s : String) : String :=
  "Unknown environment '" ++ s ++ "', defaulting to development"

/-! ## Log levels -/

/-- The levels of log records that have a name. -/
inductive LogLevel where
  | debug
  | info
  | warning
  | error
  | critical
deriving DecidableEq, Repr

namespace LogLevel

/-- The name of a level. -/
def label : LogLevel → String
  | .debug => "DEBUG"
  | .info => "INFO"
  | .warning => "WARNING"
  | .error => "ERROR"
  | .critical => "CRITICAL"

/-- The number of a level. -/
def number : LogLevel → Nat
  | .debug => 10
  | .info => 20
  | .warning => 30
  | .error => 40
  | .critical => 50

/-- The level with a name in upper case. -/
def ofLabel? (s : String) : Option LogLevel :=
  [debug, info, warning, error, critical].find? (·.label = s)

end LogLevel

/-- The warning about a text, already in upper case, that names no level. -/
def invalidLogLevel (s : String) : String := "Invalid log level '" ++ s ++ "', using INFO"

/-! ## Integers -/

/-- Whether digits are separated by single underscores that stand between two of them. -/
def underscoresFit : List Char → Bool
  | [] => true
  | ['_'] => false
  | '_' :: '_' :: _ => false
  | _ :: cs => underscoresFit cs

/-- White space that may stand around a number: the information separators are none. -/
def isPadding (c : Char) : Bool := Text.isBlank c && !(0x1C ≤ c.toNat && c.toNat ≤ 0x1F)

/-- A text without padding around it. -/
def unpadded (s : List Char) : List Char :=
  ((s.dropWhile isPadding).reverse.dropWhile isPadding).reverse

/-- The integer that a text writes in decimal digits of any script. White space around it, a sign and
single underscores between digits are allowed, but no more digits than the limit. -/
def integer? (s : String) : Option Int :=
  let (negative, ds) := Num.readSign (unpadded s.toList)
  if ds.isEmpty || ds.head? = some '_' || !underscoresFit ds then none
  else
    match (ds.filter (· != '_')).mapM Text.digitValue? with
    | none => none
    | some values =>
      if Num.digitLimit < values.length then none
      else
        let n : Int := Num.ofDigits 10 values
        some (if negative then -n else n)

end EventHub.Settings
