/-! # Sets of characters given by ranges

Properties of characters are tables of inclusive ranges of code points, in ascending order.
-/

namespace EventHub.Text

/-- Inclusive ranges of code points. -/
abbrev Ranges := List (Nat × Nat)

/-- Whether a character lies in one of the ranges. -/
def Ranges.contains (rs : Ranges) (c : Char) : Bool :=
  rs.any fun (first, last) => first ≤ c.toNat && c.toNat ≤ last

end EventHub.Text
