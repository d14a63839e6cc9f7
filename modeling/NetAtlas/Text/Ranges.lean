/-!
Character classes as sorted lists of closed code point ranges.
-/

namespace NetAtlas.Text

/-- Closed ranges of code points, in increasing order. -/
abbrev Ranges := List (Nat × Nat)

/-- A code point is in the class if one of the ranges covers it. -/
def Ranges.contains (rs : Ranges) (n : Nat) : Bool :=
  rs.any fun (first, last) => decide (first ≤ n) && decide (n ≤ last)

end NetAtlas.Text
