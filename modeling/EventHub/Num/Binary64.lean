import EventHub.Num.Rounding

/-! # Binary floating-point numbers of 64 bits

Numbers are kept exactly, as a sign, a significand below 2⁵³ and a power of two, and every operation
rounds its exact result to the nearest such number, ties to the even significand.
-/

namespace EventHub.Num

/-- A floating-point number. A finite one stands for `± significand · 2 ^ exponent`, where the
exponent is at least -1074 and the significand is at least 2⁵² unless the exponent is -1074. -/
inductive Binary64 where
  | nan
  | infinite (negative : Bool)
  | finite (negative : Bool) (significand : Nat) (exponent : Int)
deriving DecidableEq, Repr

namespace Binary64

/-- Zero with a sign. -/
def zero (negative : Bool) : Binary64 := .finite negative 0 (-1074)

/-- Significands lie below this number; the larger ones, from half of it on, have full precision. -/
def significandLimit : Nat := Nat.pow 2 53

/-- The number nearest to `± num / den`, infinite when that is out of range. -/
def ofRatio (negative : Bool) (num den : Nat) : Binary64 :=
  if num = 0 then zero negative else
  let guess : Int := max ((num.log2 : Int) - den.log2 - 53) (-1074)
  let (n, d) := rescale 2 num den guess
  let e := if n / d < significandLimit then guess else guess + 1
  let (n, d) := rescale 2 num den e
  let q := roundHalfEven n d
  let (m, e) := if q = significandLimit then (q / 2, e + 1) else (q, e)
  if 971 < e then .infinite negative else .finite negative m e

/-- The number nearest to an integer. -/
def ofInt (i : Int) : Binary64 := ofRatio (decide (i < 0)) i.natAbs 1

/-- The number nearest to `± digits · 10 ^ exponent`. -/
def ofDecimal (negative : Bool) (digits : Nat) (exponent : Int) : Binary64 :=
  let size : Int := digitCount digits + exponent
  if digits = 0 ∨ size < -400 then zero negative
  else if 400 < size then .infinite negative
  else
    let (n, d) := rescale 10 digits 1 (-exponent)
    ofRatio negative n d

/-- Whether the sign is negative. -/
def isNegative : Binary64 → Bool
  | .nan => false
  | .infinite s => s
  | .finite s _ _ => s

/-- Whether the number is finite and different from zero, or infinite, or not a number. -/
def isNonzero : Binary64 → Bool
  | .finite _ m _ => m != 0
  | _ => true

/-- The magnitude of a finite number as a quotient of whole numbers. -/
def magnitude? : Binary64 → Option (Nat × Nat)
  | .finite _ m e => some (rescale 2 m 1 (-e))
  | _ => none

/-- The product of a finite number with a natural one; the others stay as they are. -/
def scale (x : Binary64) (k : Nat) : Binary64 :=
  match x with
  | .finite s m e =>
    let (n, d) := rescale 2 (m * k) 1 (-e)
    ofRatio s n d
  | x => x

/-- The number nearest to the value rounded to `places` decimal places, ties to even. -/
def roundPlaces (x : Binary64) (places : Nat) : Binary64 :=
  match x with
  | .finite s m e =>
    let unit := Nat.pow 10 places
    let (n, d) := rescale 2 (m * unit) 1 (-e)
    ofRatio s (roundHalfEven n d) unit
  | x => x

/-- The integer part of a finite number, toward zero. -/
def truncate? : Binary64 → Option Int
  | .finite s m e =>
    let (n, d) := rescale 2 m 1 (-e)
    some (if s then -(n / d : Nat) else (n / d : Nat))
  | _ => none

/-- The sum of an integer and a finite fraction given as a quotient, rounded once. -/
def ofMixed (whole : Int) (num den : Nat) : Binary64 :=
  let total := whole * den + num
  ofRatio (decide (total < 0)) total.natAbs den

end Binary64

end EventHub.Num
