/-! Sets of characters as lists of closed ranges of code points, the form of every property table here. -/

namespace ResourceCatalog.Text

/-- The code points from `first` to `last`, both included. -/
structure CodeRange where
  first : Nat
  last : Nat

/-- Some range of the list holds the character. -/
def inRanges (ranges : List CodeRange) (c : Char) : Bool :=
  ranges.any fun r => r.first ≤ c.toNat && c.toNat ≤ r.last

end ResourceCatalog.Text
