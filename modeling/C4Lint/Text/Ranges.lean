/-
# Ranges of code points

The character classes of the linter are properties of the Unicode Standard, version 17.0.  Each is
stored as a list of closed ranges of code points, ascending and apart, and read by
`CodeRange.covers`.
-/

namespace C4Lint.Text

/-- The code points from `first` to `last`, both included. -/
structure CodeRange where
  /-- The least code point of the range. -/
  first : Nat
  /-- The greatest code point of the range. -/
  last : Nat
deriving DecidableEq, Repr

namespace CodeRange

/-- Whether one of the ranges holds the code point `n`. -/
def covers (ranges : List CodeRange) (n : Nat) : Bool :=
  ranges.any fun r => r.first ≤ n && n ≤ r.last

theorem covers_eq_true_iff {ranges : List CodeRange} {n : Nat} :
    covers ranges n = true ↔ ∃ r ∈ ranges, r.first ≤ n ∧ n ≤ r.last := by
  simp [covers]

end CodeRange

end C4Lint.Text
