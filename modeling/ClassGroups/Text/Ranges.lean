import ClassGroups.Text.Basic

/-!
# Sets of characters

A set of characters is kept as the list of its ranges of code points, both ends included.
-/

namespace ClassGroups

/-- A set of characters, as inclusive ranges of code points. -/
abbrev CharRanges := List (Nat × Nat)

/-- Whether a character lies in one of the ranges. -/
def CharRanges.covers (ranges : CharRanges) (c : Char) : Bool :=
  ranges.any fun (first, last) => first ≤ c.toNat && c.toNat ≤ last

end ClassGroups
