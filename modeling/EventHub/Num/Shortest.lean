import EventHub.Num.Binary64

/-! # The shortest decimal that reads back

A floating-point number is written with the fewest significant digits that still determine it. For
each count of digits the two neighbours of the value on that decimal grid are tried; the first grid
with a neighbour that reads back as the number wins, and of two such neighbours the nearer one.
-/

namespace EventHub.Num

/-- The least `k` with `num / den < 10 ^ k`, for a quotient that is not zero. -/
def decimalPoint (num den : Nat) : Int :=
  if den ≤ num then digitCount (num / den) else 1 - digitCount ((den - 1) / num)

/-- The neighbour of a positive number on the grid of `count` significant digits that reads back as
`x`, as digits and a power of ten. -/
def neighbour? (x : Binary64) (num den count : Nat) : Option (Nat × Int) :=
  let grid : Int := decimalPoint num den - count
  let (n, d) := rescale 10 num den grid
  let below := n / d
  let above := below + 1
  let reads (c : Nat) : Bool := Binary64.ofDecimal false c grid = x
  let nearerBelow := 2 * (n % d) < d ∨ (2 * (n % d) = d ∧ below % 2 = 0)
  if reads below ∧ (nearerBelow ∨ ¬ reads above) then some (below, grid)
  else if reads above then some (above, grid) else none

/-- The shortest decimal, as digits and a power of ten, that reads back as the positive number
`significand · 2 ^ exponent`; seventeen digits always do. -/
def shortestDecimal (significand : Nat) (exponent : Int) : Nat × Int :=
  let (num, den) := rescale 2 significand 1 (-exponent)
  let x := Binary64.finite false significand exponent
  ((List.range 17).findSome? fun i => neighbour? x num den (i + 1)).getD (significand, 0)

/-- Digits with a point after the first `point` of them; zeros fill the places that have none. -/
def positional (digits : List Char) (point : Int) : List Char :=
  if point ≤ 0 then ['0', '.'] ++ List.replicate (-point).toNat '0' ++ digits
  else
    let k := point.toNat
    if digits.length ≤ k then digits ++ List.replicate (k - digits.length) '0' ++ ['.', '0']
    else digits.take k ++ '.' :: digits.drop k

/-- Digits with a point after the first of them and a power of ten of at least two digits. -/
def scientific (digits : List Char) (point : Int) : List Char :=
  let power := point - 1
  let mantissa := match digits with
    | [d] => [d]
    | d :: ds => d :: '.' :: ds
    | [] => []
  mantissa ++ 'e' :: (if power < 0 then '-' else '+') :: paddedDecimal 2 power.natAbs

/-- Digits without the zeros at their end; one is left if there is nothing else. -/
def significant (digits : List Char) : List Char :=
  let ds := (digits.reverse.dropWhile (· == '0')).reverse
  if ds.isEmpty then ['0'] else ds

/-- The text of a floating-point number: the shortest decimal that reads back, in positional notation
from 10⁻⁴ up to below 10¹⁶ and in scientific notation beyond. -/
def Binary64.text (nanName infinityName : List Char) : Binary64 → List Char
  | .nan => nanName
  | .infinite s => (if s then ['-'] else []) ++ infinityName
  | .finite s m e =>
    let sign := if s then ['-'] else []
    if m = 0 then sign ++ ['0', '.', '0'] else
    let (c, x) := shortestDecimal m e
    let ds := significant (decimal c)
    let point : Int := digitCount c + x
    sign ++ if point ≤ -4 ∨ 16 < point then scientific ds point else positional ds point

end EventHub.Num
