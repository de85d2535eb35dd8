/-! # Tables of code points

A property of characters is given as a list of inclusive ranges of code points in ascending order
(`CodePoints`); `CodePoints.has` looks a character up.
-/

namespace DartSurvey.Text

/-- A set of code points, as inclusive ranges in ascending order. -/
abbrev CodePoints := List (Nat × Nat)

/-- Whether a character lies in one of the ranges. -/
def CodePoints.has (table : CodePoints) (c : Char) : Bool :=
  table.any fun r => r.1 ≤ c.toNat && c.toNat ≤ r.2

theorem CodePoints.has_iff (table : CodePoints) (c : Char) :
    table.has c = true ↔ ∃ r ∈ table, r.1 ≤ c.toNat ∧ c.toNat ≤ r.2 := by
  simp [CodePoints.has]

end DartSurvey.Text
