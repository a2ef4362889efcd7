/-! Sets of characters given as tables of code point ranges. -/

namespace RecordSmith.Text

/-- A run of code points, both ends included. -/
structure CharRange where
  first : Nat
  last : Nat
deriving Repr, DecidableEq

/-- The character's code point lies in the run. -/
def CharRange.holds (range : CharRange) (c : Char) : Bool :=
  range.first ≤ c.toNat && c.toNat ≤ range.last

/-- Some run of the table holds the character. -/
def inRanges (table : List CharRange) (c : Char) : Bool :=
  table.any (·.holds c)

/-- Membership in a table, spelled out on code points. -/
theorem inRanges_iff {table : List CharRange} {c : Char}
    : inRanges table c = true
      ↔ ∃ range ∈ table, range.first ≤ c.toNat ∧ c.toNat ≤ range.last := by
  simp [inRanges, CharRange.holds]

end RecordSmith.Text
