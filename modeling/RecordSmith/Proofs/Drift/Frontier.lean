import RecordSmith.Drift.Meeting
import RecordSmith.Proofs.Drift.SharedLines

/-! How far one search comes. The cells of a search hold its progress on the diagonals of the
last two distances; what an earlier search left in other cells is never read. Progress may run
past the end of a sequence, but then a neighbouring diagonal has come as far.
-/

namespace RecordSmith.Drift

-----------------------------------------------------------------------------------------
-- Rows of diagonals
-----------------------------------------------------------------------------------------

/-- The diagonal is met at the distance. No diagonal is met at a negative one. -/
def OnRow (distance diagonal : Int) : Prop :=
  -distance ≤ diagonal ∧ diagonal ≤ distance ∧ (diagonal - distance) % 2 = 0

theorem mem_diagonals {distance : Nat} {diagonal : Int}
    : diagonal ∈ diagonals distance ↔ OnRow distance diagonal := by
  simp only [diagonals, List.mem_map, List.mem_range, OnRow]
  constructor
  · rintro ⟨index, small, rfl⟩
    omega
  · intro row
    exact ⟨((distance - diagonal) / 2).toNat, by omega, by omega⟩

/-- There are cells for all diagonals below the bound. -/
def Reach.HasRoom (reach : Reach) (bound : Nat) : Prop :=
  bound ≤ reach.offset ∧ reach.cells.size = 2 * reach.offset

theorem Reach.hasRoom_none (bound : Nat)
    : (Reach.none bound).HasRoom bound := by
  simp [Reach.HasRoom, Reach.none]

theorem Reach.HasRoom.set {reach : Reach} {bound : Nat} (room : reach.HasRoom bound)
    (diagonal : Int) (value : Nat)
    : (reach.set diagonal value).HasRoom bound := by
  simpa [Reach.HasRoom, Reach.set] using room

/-- A cell holds what was recorded there last. -/
theorem Reach.HasRoom.get_set {reach : Reach} {bound : Nat} (room : reach.HasRoom bound)
    (diagonal : Int) (value : Nat) {other : Int} (small : other.natAbs < bound)
    : (reach.set diagonal value).get other
      = if other = diagonal then value else reach.get other := by
  obtain ⟨within, size⟩ := room
  simp only [Reach.get, Reach.set, Array.getD_eq_getD_getElem?, Array.getElem?_setIfInBounds]
  by_cases same : other = diagonal
  · rw [if_pos same, same, if_pos rfl, if_pos (by omega), Option.getD_some]
  · rw [if_neg same, if_neg (by omega)]

/-- A step starts alike where the cells of the row before it are alike. -/
theorem Reach.start_congr {reach other : Reach} {bound distance : Nat} {diagonal : Int}
    (near : distance < bound) (room : 1 < bound)
    (same : ∀ cell : Int, (cell - distance) % 2 ≠ 0 → cell.natAbs < bound
      → reach.get cell = other.get cell)
    (row : OnRow distance diagonal)
    : reach.start distance diagonal = other.start distance diagonal := by
  obtain ⟨low, high, even⟩ := row
  unfold Reach.start
  by_cases lowest : diagonal = -distance
  · rw [same (diagonal + 1) (by omega) (by omega)]
    simp [lowest]
  · have below := same (diagonal - 1) (by omega) (by omega)
    by_cases highest : diagonal = distance
    · subst highest
      simp [lowest, below]
    · rw [same (diagonal + 1) (by omega) (by omega), below]

/-- A step starts from the better neighbour, on the right of it or below it. -/
theorem Reach.start_cases (reach : Reach) {distance : Nat} {diagonal : Int}
    (row : OnRow (distance + 1) diagonal)
    : (OnRow distance (diagonal + 1)
        ∧ reach.start (distance + 1) diagonal = reach.get (diagonal + 1)
        ∧ (OnRow distance (diagonal - 1) → reach.get (diagonal - 1) < reach.get (diagonal + 1)))
      ∨ (OnRow distance (diagonal - 1)
        ∧ reach.start (distance + 1) diagonal = reach.get (diagonal - 1) + 1
        ∧ (OnRow distance (diagonal + 1)
          → reach.get (diagonal + 1) ≤ reach.get (diagonal - 1))) := by
  unfold Reach.start
  simp only [OnRow] at row ⊢
  split
  · next better =>
      simp only [Bool.or_eq_true, Bool.and_eq_true, decide_eq_true_eq] at better
      left
      omega
  · next worse =>
      simp only [Bool.or_eq_true, Bool.and_eq_true, decide_eq_true_eq] at worse
      right
      omega

/-- A step starts no earlier than its upper neighbour. -/
theorem Reach.get_upper_le_start (reach : Reach) {distance : Nat} {diagonal : Int}
    (upper : OnRow distance (diagonal + 1))
    : reach.get (diagonal + 1) ≤ reach.start (distance + 1) diagonal := by
  have row : OnRow (distance + 1) diagonal := by
    simp only [OnRow] at upper ⊢
    omega
  rcases reach.start_cases row with ⟨_, start, _⟩ | ⟨_, start, better⟩
  · exact Nat.le_of_eq start.symm
  · have := better upper
    omega

/-- A step starts later than its lower neighbour. -/
theorem Reach.get_lower_lt_start (reach : Reach) {distance : Nat} {diagonal : Int}
    (lower : OnRow distance (diagonal - 1))
    : reach.get (diagonal - 1) < reach.start (distance + 1) diagonal := by
  have row : OnRow (distance + 1) diagonal := by
    simp only [OnRow] at lower ⊢
    omega
  rcases reach.start_cases row with ⟨_, start, better⟩ | ⟨_, start, _⟩
  · have := better lower
    omega
  · omega

-----------------------------------------------------------------------------------------
-- Agreement
-----------------------------------------------------------------------------------------

/-- Lines that agree lie in the first sequence. -/
theorem agreement_le_old (old new : List String) (x : Nat) (y : Int)
    : agreement old new x y ≤ old.length - x := by
  unfold agreement
  split
  · simpa using sharedFront_le_left (old.drop x) (new.drop y.toNat)
  · exact Nat.zero_le _

theorem agreement_le_new (old new : List String) (x : Nat) (y : Int)
    : agreement old new x y ≤ new.length - y.toNat := by
  unfold agreement
  split
  · simpa using sharedFront_le_right (old.drop x) (new.drop y.toNat)
  · exact Nat.zero_le _

/-- Where the next step on a diagonal ends: behind the lines that agree. -/
def Reach.next (reach : Reach) (old new : List String) (distance : Nat) (diagonal : Int) : Nat :=
  let x := reach.start distance diagonal
  x + agreement old new x (x - diagonal)

theorem Reach.start_le_next (reach : Reach) (old new : List String) (distance : Nat)
    (diagonal : Int)
    : reach.start distance diagonal ≤ reach.next old new distance diagonal :=
  Nat.le_add_right _ _

/-- A step that ends past the first sequence started there. -/
theorem Reach.next_eq_start_of_past_old {reach : Reach} {old new : List String} {distance : Nat}
    {diagonal : Int} (past : old.length < reach.next old new distance diagonal)
    : reach.next old new distance diagonal = reach.start distance diagonal := by
  have := agreement_le_old old new (reach.start distance diagonal)
    (reach.start distance diagonal - diagonal)
  simp only [Reach.next] at past ⊢
  omega

/-- A step that ends past the second sequence started there. -/
theorem Reach.next_eq_start_of_past_new {reach : Reach} {old new : List String} {distance : Nat}
    {diagonal : Int} (past : new.length + diagonal < reach.next old new distance diagonal)
    : reach.next old new distance diagonal = reach.start distance diagonal := by
  have := agreement_le_new old new (reach.start distance diagonal)
    (reach.start distance diagonal - diagonal)
  simp only [Reach.next] at past ⊢
  omega

/-- A search has stepped on all diagonals of a distance, and those of the distance before are as
they were.
-/
structure Reach.Moves (reach : Reach) (old new : List String) (distance : Nat) (moved : Reach)
    : Prop where
  next : ∀ diagonal : Int, OnRow distance diagonal
    → moved.get diagonal = reach.next old new distance diagonal
  kept : ∀ diagonal : Int, OnRow (distance - 1) diagonal
    → moved.get diagonal = reach.get diagonal

-----------------------------------------------------------------------------------------
-- The frontier of a search
-----------------------------------------------------------------------------------------

/-- The progress of a search between sequences of two lengths after a distance: it is at least
the distance, and where it is past the end of a sequence, the next diagonal towards the inside
has come as far.
-/
structure Frontier (old new distance : Nat) (reach : Reach) : Prop where
  advanced : ∀ row diagonal : Int, row ≤ distance → distance ≤ row + 1 → OnRow row diagonal
    → diagonal ≤ reach.get diagonal ∧ row + diagonal ≤ 2 * reach.get diagonal
  below : ∀ diagonal : Int, OnRow distance diagonal → old < reach.get diagonal
    → OnRow distance (diagonal - 2) ∧ reach.get diagonal ≤ reach.get (diagonal - 2) + 1
  above : ∀ diagonal : Int, OnRow distance diagonal → new + diagonal < reach.get diagonal
    → OnRow distance (diagonal + 2) ∧ reach.get diagonal + 1 ≤ reach.get (diagonal + 2)

/-- A search that has not moved is at its start. -/
theorem Frontier.at_start {reach : Reach} (old new : Nat) (resting : reach.get 0 = 0)
    : Frontier old new 0 reach := by
  have only {diagonal : Int} (on : OnRow 0 diagonal) : diagonal = 0 := by
    simp only [OnRow] at on
    omega
  constructor
  · intro row diagonal small large on
    simp only [OnRow] at on
    omega
  · intro diagonal on past
    rw [only on, resting] at past
    omega
  · intro diagonal on past
    rw [only on, resting] at past
    omega

section Step

variable {old new : List String} {distance : Nat} {reach : Reach}
  (frontier : Frontier old.length new.length distance reach)
include frontier

theorem Frontier.next_advanced {diagonal : Int} (on : OnRow (distance + 1) diagonal)
    : diagonal ≤ reach.next old new (distance + 1) diagonal
      ∧ distance + 1 + diagonal ≤ 2 * reach.next old new (distance + 1) diagonal := by
  have ahead := reach.start_le_next old new (distance + 1) diagonal
  rcases reach.start_cases on with ⟨source, start, _⟩ | ⟨source, start, _⟩
  · have := frontier.advanced _ _ (Int.le_refl _) (by omega) source
    omega
  · have := frontier.advanced _ _ (Int.le_refl _) (by omega) source
    omega

/-- A step past the first sequence is followed by the lower diagonal. It started there, either
from the lower neighbour or from an upper one that was past the sequence before.
-/
theorem Frontier.next_below {diagonal : Int} (on : OnRow (distance + 1) diagonal)
    (past : old.length < reach.next old new (distance + 1) diagonal)
    : OnRow (distance + 1) (diagonal - 2)
      ∧ reach.next old new (distance + 1) diagonal
        ≤ reach.next old new (distance + 1) (diagonal - 2) + 1 := by
  have stays := Reach.next_eq_start_of_past_old past
  obtain ⟨lower, near⟩ : OnRow distance (diagonal - 1)
      ∧ reach.start (distance + 1) diagonal ≤ reach.get (diagonal - 1) + 1 := by
    rcases reach.start_cases on with ⟨source, start, _⟩ | ⟨source, start, _⟩
    · -- The upper neighbour was past the end already, so the lower one had followed it.
      have behind := frontier.below (diagonal + 1) source (by omega)
      rw [show diagonal + 1 - 2 = diagonal - 1 by omega] at behind
      exact ⟨behind.1, by omega⟩
    · exact ⟨source, Nat.le_of_eq start⟩
  have upper : diagonal - 2 + 1 = diagonal - 1 := by omega
  have pulled := reach.get_upper_le_start (upper.symm ▸ lower)
  have ahead := reach.start_le_next old new (distance + 1) (diagonal - 2)
  rw [upper] at pulled
  refine ⟨?_, by omega⟩
  simp only [OnRow] at on lower ⊢
  omega

/-- A step past the second sequence is followed by the upper diagonal. -/
theorem Frontier.next_above {diagonal : Int} (on : OnRow (distance + 1) diagonal)
    (past : new.length + diagonal < reach.next old new (distance + 1) diagonal)
    : OnRow (distance + 1) (diagonal + 2)
      ∧ reach.next old new (distance + 1) diagonal + 1
        ≤ reach.next old new (distance + 1) (diagonal + 2) := by
  have stays := Reach.next_eq_start_of_past_new past
  obtain ⟨upper, near⟩ : OnRow distance (diagonal + 1)
      ∧ reach.start (distance + 1) diagonal ≤ reach.get (diagonal + 1) := by
    rcases reach.start_cases on with ⟨source, start, _⟩ | ⟨source, start, _⟩
    · exact ⟨source, Nat.le_of_eq start⟩
    · have ahead := frontier.above (diagonal - 1) source (by omega)
      rw [show diagonal - 1 + 2 = diagonal + 1 by omega] at ahead
      exact ⟨ahead.1, by omega⟩
  have lower : diagonal + 2 - 1 = diagonal + 1 := by omega
  have pushed := reach.get_lower_lt_start (lower.symm ▸ upper)
  have ahead := reach.start_le_next old new (distance + 1) (diagonal + 2)
  rw [lower] at pushed
  refine ⟨?_, by omega⟩
  simp only [OnRow] at on upper ⊢
  omega

/-- A step on each diagonal takes the frontier to the next distance. -/
theorem Frontier.step {moved : Reach} (moves : reach.Moves old new (distance + 1) moved)
    : Frontier old.length new.length (distance + 1) moved := by
  constructor
  · intro row diagonal small large on
    by_cases last : row = distance + 1
    · subst last
      rw [moves.next diagonal on]
      exact frontier.next_advanced on
    · obtain rfl : row = distance := by omega
      rw [moves.kept diagonal (by simpa using on)]
      exact frontier.advanced _ _ (Int.le_refl _) (by omega) on
  · intro diagonal on past
    rw [moves.next diagonal on] at past ⊢
    obtain ⟨lower, follows⟩ := frontier.next_below on past
    rw [moves.next _ lower]
    exact ⟨lower, follows⟩
  · intro diagonal on past
    rw [moves.next diagonal on] at past ⊢
    obtain ⟨upper, follows⟩ := frontier.next_above on past
    rw [moves.next _ upper]
    exact ⟨upper, follows⟩

end Step

end RecordSmith.Drift
