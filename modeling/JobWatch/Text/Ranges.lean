/-!
# Sets of code points

A Unicode property is given by the ranges of code points that have it.
-/

namespace JobWatch.Text

/-- Ranges of code points, first and last included. -/
abbrev Ranges := List (Nat × Nat)

def Ranges.contains (rs : Ranges) (n : Nat) : Bool := rs.any fun r => r.1 ≤ n && n ≤ r.2

theorem Ranges.contains_iff {rs : Ranges} {n : Nat} :
    rs.contains n ↔ ∃ r ∈ rs, r.1 ≤ n ∧ n ≤ r.2 := by
  simp [Ranges.contains]

end JobWatch.Text
