import EventHub.Fault

/-! # Dates and times

Moments are counted in seconds from the beginning of 1970 in universal time. A fraction of a second is
rounded to whole microseconds, a half to the even one; a clock on the wall shows the second that has
begun.
-/

namespace EventHub.Log

/-- A moment as a program states it: in whole seconds, or as a floating-point number. -/
inductive Moment where
  | whole (seconds : Int)
  | real (x : Num.Binary64)

/-- A date of the Gregorian calendar. -/
structure Date where
  year : Int
  month : Nat
  day : Nat
deriving DecidableEq, Repr

/-- The date that lies a number of days after the first of January 1970. Years are counted from the
first of March, so that the leap day comes last, in eras of four hundred years. -/
def Date.ofDays (days : Int) : Date :=
  let z := days + 719468
  let era := z.fdiv 146097
  let doe := (z - era * 146097).toNat
  let yoe := (doe - doe / 1460 + doe / 36524 - doe / 146096) / 365
  let doy := doe - (365 * yoe + yoe / 4 - yoe / 100)
  let mp := (5 * doy + 2) / 153
  let day := doy - (153 * mp + 2) / 5 + 1
  let month := if mp < 10 then mp + 3 else mp - 9
  let year : Int := yoe + era * 400
  ⟨if month ≤ 2 then year + 1 else year, month, day⟩

/-- The time of day as hours, minutes and seconds. -/
def timeOfDay (seconds : Int) : String :=
  let s := (seconds.fmod 86400).toNat
  String.ofList (Num.paddedDecimal 2 (s / 3600) ++ ':' :: Num.paddedDecimal 2 (s / 60 % 60)
    ++ ':' :: Num.paddedDecimal 2 (s % 60))

/-- The fault of a moment that is no number. -/
def notANumber : Fault := .badDate .valueError "Invalid value NaN (not a number)"

/-- The fault of a moment too far away to count its seconds. -/
def tooFar : Fault := .badDate .overflow "timestamp out of range for platform time_t"

/-- The fault of a moment whose year cannot be counted. -/
def yearTooLarge : Fault :=
  .badDate (.system .general) "[Errno 75] Value too large for defined data type"

/-- Seconds whose year can be counted. -/
def checkSeconds (s : Int) : Except Fault Int :=
  if s < -9223372036854775808 ∨ 9223372036854775807 < s then .error tooFar
  else if s < -67768040609740800 ∨ 67768036191676799 < s then .error yearTooLarge
  else .ok s

/-- The second that has begun at a moment. -/
def Moment.second : Moment → Except Fault Int
  | .whole s => checkSeconds s
  | .real .nan => .error notANumber
  | .real (.infinite _) => .error tooFar
  | .real (.finite negative m e) =>
    let (n, d) := Num.rescale 2 m 1 (-e)
    checkSeconds (if negative then -((n + d - 1) / d : Nat) else (n / d : Nat))

/-- The nearest microsecond of a moment, as seconds and microseconds. The fraction is scaled as a
floating-point number before it is rounded. -/
def Moment.microsecond : Moment → Except Fault (Int × Nat)
  | .whole s => (checkSeconds s).map (·, 0)
  | .real .nan => .error notANumber
  | .real (.infinite _) => .error tooFar
  | .real (.finite negative m e) =>
    let (n, d) := Num.rescale 2 m 1 (-e)
    let fraction := (Num.Binary64.ofRatio false (n % d) d).scale 1000000
    let micros := match fraction.magnitude? with
      | some (a, b) => Num.roundHalfEven a b
      | none => 0
    let total : Int := (n / d : Nat) * 1000000 + micros
    let total := if negative then -total else total
    (checkSeconds (total.fdiv 1000000)).map (·, (total.fmod 1000000).toNat)

/-- The date and time of a moment, in universal time. Years have four digits; those out of range are
shown as 32 bits show them. -/
def Moment.stamp (t : Moment) : Except Fault String := do
  let (seconds, micros) ← t.microsecond
  let date := Date.ofDays (seconds.fdiv 86400)
  if date.year < 1 ∨ 9999 < date.year then
    .error (.badDate .valueError
      ("year " ++ (Value.int (Int.bmod date.year 4294967296)).plain ++ " is out of range"))
  else
    let day := Num.paddedDecimal 4 date.year.toNat ++ '-' :: Num.paddedDecimal 2 date.month
      ++ '-' :: Num.paddedDecimal 2 date.day
    let fraction := if micros = 0 then [] else '.' :: Num.paddedDecimal 6 micros
    .ok (String.ofList day ++ "T" ++ timeOfDay seconds ++ String.ofList fraction ++ "+00:00")

/-- The fault of a moment whose year does not fit into 32 bits. -/
def yearTooWide : Fault := .badDate .overflow "signed integer is greater than maximum"

/-- The last second of the last year that fits into 32 bits. -/
def lastSecond : Int := 67767976233532799

/-- The time of day of a moment. -/
def Moment.clock (t : Moment) : Except Fault String := do
  let s ← t.second
  if lastSecond < s then .error yearTooWide else .ok (timeOfDay s)

end EventHub.Log
