/-!
# `ErrorCatalog/Text/Range.lean` — sets of characters as ranges

The Unicode properties the library needs (blank, wide, unprintable, …) are sets of code points that
consist of few intervals. Such a set is a list of pairs, first and last member, and membership is
`inRanges`.
-/

set_option autoImplicit false

namespace ErrorCatalog

/-- Whether one of the ranges, ends included, holds the code point of `c`. -/
def inRanges (ranges : List (Nat × Nat)) (c : Char) : Bool :=
  ranges.any fun r => r.1 ≤ c.toNat && c.toNat ≤ r.2

theorem inRanges_iff (ranges : List (Nat × Nat)) (c : Char) :
    inRanges ranges c = true ↔ ∃ r ∈ ranges, r.1 ≤ c.toNat ∧ c.toNat ≤ r.2 := by
  simp [inRanges, List.any_eq_true]

end ErrorCatalog
