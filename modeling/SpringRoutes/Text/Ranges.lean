/-!
# `SpringRoutes.Text.Ranges` — sets of code points

A property of characters is written down as a list of closed intervals of code points.
`Ranges.contains` decides membership; the tables themselves stand beside the property they
describe (`Blank`, `Word`, `Printable`, `Casing`).
-/

namespace SpringRoutes.Text

/-- A set of code points, given by closed intervals `(first, last)`. -/
abbrev Ranges := List (Nat × Nat)

/-- Whether the code point `n` lies in one of the intervals. -/
def Ranges.contains (t : Ranges) (n : Nat) : Bool :=
  t.any fun r => decide (r.1 ≤ n) && decide (n ≤ r.2)

theorem Ranges.contains_iff {t : Ranges} {n : Nat} :
    t.contains n = true ↔ ∃ r ∈ t, r.1 ≤ n ∧ n ≤ r.2 := by
  simp [Ranges.contains]

end SpringRoutes.Text
