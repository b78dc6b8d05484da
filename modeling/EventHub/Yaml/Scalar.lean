import EventHub.Num.Decimal
import EventHub.Text.Split
import EventHub.Value

/-! # Plain scalars of YAML

An unquoted scalar is a constant, a number or text, by its form alone (YAML 1.1). Integers may be
written in base two, eight, ten, sixteen or, with colons, sixty; underscores are ignored. A
floating-point number needs a point, and a sign in its power of ten.
-/

namespace EventHub.Yaml

/-! ## Constants -/

/-- A word in lower case, in upper case and with a capital. -/
def spellings (word : String) : List String :=
  [word, word.toUpper, word.capitalize]

/-- The words of true. -/
def trueWords : List String := ["yes", "true", "on"].flatMap spellings

/-- The words of false. -/
def falseWords : List String := ["no", "false", "off"].flatMap spellings

/-- The words of nothing. -/
def nullWords : List String := ["", "~"] ++ spellings "null"

/-- The words of infinity, behind the point. -/
def infinityWords : List String := ["inf", "Inf", "INF"]

/-- The words of what is not a number, behind the point. -/
def nanWords : List String := ["nan", "NaN", "NAN"]

/-! ## Numbers -/

/-- Whether a character is a digit or an underscore. -/
def isDigitOrGap (c : Char) : Bool := Num.isAsciiDigit c || c == '_'

/-- Whether a text is a digit followed by digits and underscores. -/
def isDigits (cs : List Char) : Bool :=
  match cs with
  | c :: rest => Num.isAsciiDigit c && rest.all isDigitOrGap
  | [] => false

/-- The digits of a text without underscores. -/
def compact (cs : List Char) : List Char := cs.filter (· != '_')

/-- The value of digits of a base up to sixteen. -/
def valueOf (base : Nat) (cs : List Char) : Nat :=
  Num.ofDigits base ((compact cs).map fun c =>
    if c ≤ '9' then c.toNat - 48 else if c ≤ 'F' then c.toNat - 55 else c.toNat - 87)

/-- Whether a text holds digits of a base and underscores, and at least one digit. -/
def isBased (allowed : Char → Bool) (cs : List Char) : Bool :=
  cs.all (fun c => allowed c || c == '_') && cs.any allowed

/-- Hexadecimal digits. -/
def isHex (c : Char) : Bool :=
  Num.isAsciiDigit c || ('a' ≤ c && c ≤ 'f') || ('A' ≤ c && c ≤ 'F')

/-- The parts of a text between colons. -/
def colonParts (cs : List Char) : List (List Char) := Text.splitAt ':' cs

/-- Whether a part behind a colon is a number below sixty in one or two digits. -/
def isSixtieth (cs : List Char) : Bool :=
  match cs with
  | [c] => Num.isAsciiDigit c
  | [c, d] => '0' ≤ c && c ≤ '5' && Num.isAsciiDigit d
  | _ => false

/-- The value of an integer without its sign. -/
def magnitude? (cs : List Char) : Option Nat :=
  match cs with
  | ['0'] => some 0
  | '0' :: 'b' :: rest => if isBased (fun c => c = '0' || c = '1') rest then some (valueOf 2 rest) else none
  | '0' :: 'x' :: rest => if isBased isHex rest then some (valueOf 16 rest) else none
  | '0' :: rest =>
    if rest.all fun c => ('0' ≤ c && c ≤ '7') || c == '_' then some (valueOf 8 rest) else none
  | _ =>
    match colonParts cs with
    | [p] => if isDigits p then some (valueOf 10 p) else none
    | p :: ps =>
      if isDigits p && ps.all isSixtieth then
        some (ps.foldl (fun n q => n * 60 + valueOf 10 q) (valueOf 10 p))
      else none
    | [] => none

/-- The integer that a plain scalar writes. -/
def integer? (cs : List Char) : Option Int :=
  let (negative, ds) := Num.readSign cs
  (magnitude? ds).map fun n => if negative then -(n : Int) else n

/-- The power of ten of a floating-point number: a letter, a sign and digits, or nothing. -/
def power? (cs : List Char) : Option Int :=
  match cs with
  | [] => some 0
  | e :: sign :: ds =>
    if (e = 'e' ∨ e = 'E') ∧ (sign = '+' ∨ sign = '-') ∧ ¬ ds.isEmpty ∧ ds.all Num.isAsciiDigit then
      some (if sign = '-' then -(Num.ofDecimalDigits ds : Int) else Num.ofDecimalDigits ds)
    else none
  | _ => none

/-- The floating-point number of digits in front of and behind a point, and a power of ten. -/
def pointed? (negative : Bool) (whole rest : List Char) : Option Num.Binary64 :=
  let fraction := rest.takeWhile isDigitOrGap
  (power? (rest.drop fraction.length)).map fun power =>
    let digits := compact fraction
    Num.Binary64.ofDecimal negative (Num.ofDecimalDigits (compact whole ++ digits))
      (power - digits.length)

/-- The floating-point number of parts of sixty with a fraction in the last one. -/
def sexagesimal? (negative : Bool) (whole fraction : List Char) : Option Num.Binary64 :=
  match colonParts whole with
  | p :: q :: ps =>
    if isDigits p && (q :: ps).all isSixtieth && fraction.all isDigitOrGap then
      let n := (q :: ps).foldl (fun n q => n * 60 + valueOf 10 q) (valueOf 10 p)
      let digits := compact fraction
      let unit := Nat.pow 10 digits.length
      some (Num.Binary64.ofRatio negative (n * unit + Num.ofDecimalDigits digits) unit)
    else none
  | _ => none

/-- The floating-point number that a plain scalar writes. -/
def real? (cs : List Char) : Option Num.Binary64 :=
  let (negative, ds) := Num.readSign cs
  let signed := ds.length < cs.length
  let whole := ds.takeWhile (· != '.')
  match ds.drop whole.length with
  | '.' :: rest =>
    let word := String.ofList rest
    if whole.isEmpty then
      if infinityWords.contains word then some (.infinite negative)
      else if nanWords.contains word && !signed then some .nan
      else if !signed && rest.head?.any Num.isAsciiDigit then pointed? negative [] rest
      else none
    else if isDigits whole then pointed? negative whole rest
    else sexagesimal? negative whole rest
  | _ => none

/-- The value of a plain scalar. -/
def ofPlain (cs : List Char) : Value :=
  let s := String.ofList cs
  if nullWords.contains s then .none
  else if trueWords.contains s then .bool true
  else if falseWords.contains s then .bool false
  else
    match real? cs with
    | some x => .float x
    | none =>
      match integer? cs with
      | some i => .int i
      | none => .text s

end EventHub.Yaml
