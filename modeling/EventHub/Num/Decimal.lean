import EventHub.Num.Binary64

/-! # Reading decimal numbers

A decimal is an optional sign, digits with an optional point, and an optional power of ten.
-/

namespace EventHub.Num

/-- How many digits an integer may have that is read from text or written as text. -/
def digitLimit : Nat := 4300

/-- Whether a character is one of the digits 0 to 9. -/
def isAsciiDigit (c : Char) : Bool := '0' ≤ c && c ≤ '9'

/-- The value of a string of digits, each less than the base. -/
def ofDigits (base : Nat) (ds : List Nat) : Nat := ds.foldl (fun n d => n * base + d) 0

/-- The value of decimal digits. -/
def ofDecimalDigits (cs : List Char) : Nat := ofDigits 10 (cs.map fun c => c.toNat - '0'.toNat)

/-- An optional sign in front of the rest. -/
def readSign : List Char → Bool × List Char
  | '-' :: cs => (true, cs)
  | '+' :: cs => (false, cs)
  | cs => (false, cs)

/-- The digits at the start and what follows them. -/
def readDigits (cs : List Char) : List Char × List Char :=
  (cs.takeWhile isAsciiDigit, cs.dropWhile isAsciiDigit)

/-- An integer written in decimal digits with an optional minus sign. -/
def readInt? (cs : List Char) : Option Int :=
  let (negative, ds) := match cs with
    | '-' :: ds => (true, ds)
    | ds => (false, ds)
  if ds.isEmpty || !ds.all isAsciiDigit then none
  else some (if negative then -(ofDecimalDigits ds : Int) else ofDecimalDigits ds)

/-- The power of ten at the end of a decimal, zero when there is none. -/
def readPower? : List Char → Option Int
  | [] => some 0
  | c :: cs =>
    if c = 'e' ∨ c = 'E' then
      let (negative, ds) := readSign cs
      if ds.isEmpty || !ds.all isAsciiDigit then none
      else some (if negative then -(ofDecimalDigits ds : Int) else ofDecimalDigits ds)
    else none

/-- The floating-point number nearest to a written decimal. At least one digit is required. -/
def readDecimal? (cs : List Char) : Option Binary64 :=
  let (negative, cs) := readSign cs
  let (whole, cs) := readDigits cs
  let (fraction, cs) := match cs with
    | '.' :: cs => readDigits cs
    | cs => ([], cs)
  if (whole ++ fraction).isEmpty then none
  else (readPower? cs).map fun power =>
    Binary64.ofDecimal negative (ofDecimalDigits (whole ++ fraction)) (power - fraction.length)

/-- A written decimal, or one of the names of infinity and of what is not a number. -/
def readNumber? (cs : List Char) : Option Binary64 :=
  if cs = "nan".toList then some .nan
  else if cs = "inf".toList then some (.infinite false)
  else if cs = "-inf".toList then some (.infinite true)
  else readDecimal? cs

end EventHub.Num
