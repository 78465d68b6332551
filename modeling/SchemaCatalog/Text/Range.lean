/-!
# Ranges of characters

A class of characters that no simple rule describes is given by the ranges of its code points,
ends included.
-/

namespace SchemaCatalog.Text

/-- Whether a character lies in one of some ranges. -/
def inRanges (ranges : List (Nat × Nat)) (c : Char) : Bool :=
  ranges.any fun (low, high) => low ≤ c.toNat && c.toNat ≤ high

end SchemaCatalog.Text
