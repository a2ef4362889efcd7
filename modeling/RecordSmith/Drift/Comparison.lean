import RecordSmith.Drift.Meeting

/-! The comparison of two sequences of lines: shared lines at both ends are kept, and what is
left is split where two searches meet.
-/

namespace RecordSmith.Drift

/-- Two sequences cut into the lines shared at the front, a middle part of each, and the lines
shared at the end.
-/
structure Trimmed where
  front : List String
  old : List String
  new : List String
  tail : List String

/-- Cuts off the lines shared at the front, then those shared at the end. -/
def trim (old new : List String) : Trimmed :=
  let front := sharedFront old new
  let oldRest := old.drop front
  let newRest := new.drop front
  let tail := sharedEnd oldRest newRest
  { front := old.take front
    old := oldRest.take (oldRest.length - tail)
    new := newRest.take (newRest.length - tail)
    tail := oldRest.drop (oldRest.length - tail) }

/-- The middle part of the first sequence is no longer than the sequence. -/
theorem length_trim_old (old new : List String)
    : (trim old new).old.length ≤ old.length := by
  simp only [trim, List.length_take, List.length_drop]
  omega

/-- The middle part of the second sequence is no longer than the sequence. -/
theorem length_trim_new (old new : List String)
    : (trim old new).new.length ≤ new.length := by
  simp only [trim, List.length_take, List.length_drop]
  omega

/-- A run, unless it has no lines. -/
def runOf (change : Change) (lines : List String) : List Run :=
  if lines.isEmpty then [] else [⟨change, lines⟩]

/-- One sequence replaced by another as a whole. -/
def replaceAll (old new : List String) : List Run :=
  runOf .drop old ++ runOf .add new

/-- The point lies in the comparison and leaves something of it on either side. -/
def Point.Inside (point : Point) (old new : List String) : Prop :=
  0 < point.old + point.new ∧ point.old + point.new < old.length + new.length
    ∧ point.old ≤ old.length ∧ point.new ≤ new.length

instance (point : Point) (old new : List String) : Decidable (point.Inside old new) :=
  inferInstanceAs (Decidable (_ ∧ _ ∧ _ ∧ _))

/-- Both parts in front of an inner point are shorter together than the whole. -/
theorem Point.Inside.front_lt {point : Point} {old new : List String}
    (inside : point.Inside old new)
    : (old.take point.old).length + (new.take point.new).length < old.length + new.length := by
  obtain ⟨_, _, _, _⟩ := inside
  simp only [List.length_take]
  omega

/-- Both parts behind an inner point are shorter together than the whole. -/
theorem Point.Inside.rest_lt {point : Point} {old new : List String}
    (inside : point.Inside old new)
    : (old.drop point.old).length + (new.drop point.new).length < old.length + new.length := by
  obtain ⟨_, _, _, _⟩ := inside
  simp only [List.length_drop]
  omega

/-- The runs that lead from one sequence to another, and the progress of the searches. -/
def compareFrom (progress : Progress) (old new : List String) : List Run × Progress :=
  let ends := trim old new
  have fits := Nat.add_le_add (length_trim_old old new) (length_trim_new old new)
  let inner : List Run × Progress :=
    if ends.old.isEmpty || ends.new.isEmpty then (replaceAll ends.old ends.new, progress)
    else
      match meeting ends.old ends.new progress with
      | (none, searched) => (replaceAll ends.old ends.new, searched)
      | (some point, searched) =>
          if inside : point.Inside ends.old ends.new then
            have := Nat.lt_of_lt_of_le inside.front_lt fits
            let first := compareFrom searched (ends.old.take point.old) (ends.new.take point.new)
            have := Nat.lt_of_lt_of_le inside.rest_lt fits
            let second :=
              compareFrom first.2 (ends.old.drop point.old) (ends.new.drop point.new)
            (first.1 ++ second.1, second.2)
          else (replaceAll ends.old ends.new, searched)
  (runOf .keep ends.front ++ inner.1 ++ runOf .keep ends.tail, inner.2)
termination_by old.length + new.length
decreasing_by all_goals exact this

/-- The runs that lead from one sequence to another. -/
def compare (old new : List String) : List Run :=
  (compareFrom (.none old.length new.length) old new).1

end RecordSmith.Drift
