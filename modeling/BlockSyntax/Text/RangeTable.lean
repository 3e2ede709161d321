/-!
# Tables of code-point ranges

A character class that a standard fixes by data (which code points are letters, which are
printable) is kept as a `RangeTable`: closed ranges `(lo, hi)` of code points.  `contains` tests a
code point against the ranges, and `contains_iff_mem` says that this is the plain reading "some
range holds the code point".
-/

namespace BlockSyntax

/-- Closed ranges `(lo, hi)` of code points, listed in ascending order. -/
abbrev RangeTable := Array (Nat × Nat)

namespace RangeTable

/-- A code point belongs to a table when one of its ranges holds it. -/
def Mem (t : RangeTable) (n : Nat) : Prop :=
  ∃ r ∈ t, r.1 ≤ n ∧ n ≤ r.2

/-- Whether a range of the table holds `n`. -/
def contains (t : RangeTable) (n : Nat) : Bool :=
  t.any fun r => r.1 ≤ n && n ≤ r.2

theorem contains_iff_mem {t : RangeTable} {n : Nat} : t.contains n = true ↔ t.Mem n := by
  unfold contains Mem
  rw [Array.any_eq_true']
  simp

end RangeTable

end BlockSyntax
