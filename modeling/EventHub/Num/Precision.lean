import EventHub.Num.Shortest

/-! # Decimals with a given number of digits

A floating-point number is written with so many digits after the point, or with so many digits from the first
one that is not zero. Its exact value is rounded once, ties to the even digit.
-/

namespace EventHub.Num

/-- The number `num / den` to `count` digits from the first one that is not zero: the digits, and how many of
them stand in front of the point. -/
def roundedDigits (num den count : Nat) : List Char × Int :=
  if num = 0 then (List.replicate count '0', 1)
  else
    let point := decimalPoint num den
    let (n, d) := rescale 10 num den (point - count)
    let q := roundHalfEven n d
    -- all nines are rounded up to a number with one digit more
    if q = Nat.pow 10 count then (decimal (q / 10), point + 1) else (decimal q, point)

/-- Digits with a point after the first `point` of them, which is left out if it comes last, unless it is to
stay. -/
def pointed (keepsPoint : Bool) (digits : List Char) (point : Nat) : List Char :=
  if digits.length ≤ point && !keepsPoint then digits else digits.take point ++ '.' :: digits.drop point

/-- Digits with a point after the first of them, and a power of ten of at least two digits. -/
def powered (keepsPoint : Bool) (digits : List Char) (point : Int) : List Char :=
  let power := point - 1
  pointed keepsPoint digits 1 ++ 'e' :: (if power < 0 then '-' else '+') :: paddedDecimal 2 power.natAbs

/-- How a number is written: with so many digits after the point, the same with a power of ten, or with so many
digits altogether and a power of ten where the number is large or small. -/
inductive Style where
  | fixed
  | scientific
  | general
deriving DecidableEq, Repr

/-- The number `num / den` in a style. In the general style zeros at the end are left out, as the point is in
all of them, unless all of this is to stay. -/
def Style.text (style : Style) (keepsPoint : Bool) (precision num den : Nat) : List Char :=
  match style with
  | .fixed =>
    let ds := paddedDecimal (precision + 1) (roundHalfEven (num * Nat.pow 10 precision) den)
    pointed keepsPoint ds (ds.length - precision)
  | .scientific =>
    let (ds, point) := roundedDigits num den (precision + 1)
    powered keepsPoint ds point
  | .general =>
    let count := max precision 1
    let (ds, point) := roundedDigits num den count
    let ds := if keepsPoint then ds else significant ds
    if point ≤ -4 ∨ count < point then powered keepsPoint ds point
    else if point ≤ 0 then pointed keepsPoint ('0' :: List.replicate (-point).toNat '0' ++ ds) 1
    else pointed keepsPoint (ds ++ List.replicate (point.toNat - ds.length) '0') point.toNat

end EventHub.Num
