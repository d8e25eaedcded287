/-! Sets of characters given by ranges of code points.
The tables of Unicode properties beside this module are lists of such ranges;
they follow version 17.0 of the standard. -/

namespace FixCorpus.Text

abbrev Range := Nat × Nat

def inRanges (ranges : List Range) (c : Char) : Bool :=
  ranges.any fun r => r.1 ≤ c.toNat && c.toNat ≤ r.2

theorem inRanges_iff {ranges : List Range} {c : Char} :
    inRanges ranges c = true ↔ ∃ r ∈ ranges, r.1 ≤ c.toNat ∧ c.toNat ≤ r.2 := by
  simp [inRanges]

end FixCorpus.Text
