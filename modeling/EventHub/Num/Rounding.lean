/-! # Rounding a quotient to the nearest whole number

Ties go to the even neighbour. The scaled forms round a quotient on a grid of powers of two or ten.
-/

namespace EventHub.Num

/-- The whole number nearest to `num / den`; of two nearest ones the even one. -/
def roundHalfEven (num den : Nat) : Nat :=
  let q := num / den
  let r := num % den
  if 2 * r < den then q
  else if den < 2 * r then q + 1
  else if q % 2 = 0 then q else q + 1

/-- The quotient of `num / den` by the `e`-th power of `base`, as numerator and denominator. -/
def rescale (base num den : Nat) (e : Int) : Nat × Nat :=
  if 0 ≤ e then (num, den * base.pow e.toNat) else (num * base.pow (-e).toNat, den)

/-- How many decimal digits a number has; zero has none. -/
def digitCount (n : Nat) : Nat := if n = 0 then 0 else (Nat.toDigits 10 n).length

/-- The digits of a number in decimal notation. -/
def decimal (n : Nat) : List Char := Nat.toDigits 10 n

/-- An integer in decimal notation. -/
def signedDecimal : Int → List Char
  | .ofNat n => decimal n
  | .negSucc n => '-' :: decimal (n + 1)

/-- A number in decimal notation, padded with zeros on the left to at least `width` digits. -/
def paddedDecimal (width n : Nat) : List Char :=
  let ds := decimal n
  List.replicate (width - ds.length) '0' ++ ds

end EventHub.Num
