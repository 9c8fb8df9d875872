/-!
# Ranges of code points

A character property is a list of inclusive ranges of code points, in ascending order.
-/

namespace DartRoutes

/-- Inclusive ranges of code points. -/
abbrev CodeRanges := List (Nat × Nat)

/-- Does one of the ranges hold the character? -/
def CodeRanges.hold (ranges : CodeRanges) (character : Char) : Bool :=
  ranges.any fun (first, last) => first ≤ character.toNat && character.toNat ≤ last

end DartRoutes
