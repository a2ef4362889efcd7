import RecordSmith.Proofs.Drift.Sides

/-! Where a changed run comes to rest when it moves down. Moving it up first makes no difference
unless it meets a run of its own change there, so that a compaction goes back only for a run
that it saves.
-/

namespace RecordSmith.Drift

-----------------------------------------------------------------------------------------
-- Moving down
-----------------------------------------------------------------------------------------

/-- What lies below a run after it moved down does not depend on the runs above it, by induction
over the move.
-/
theorem later_moveDown_congr (earlier other : List Run) (run : Run) (later : List Run)
    : (moveDown earlier run later).later = (moveDown other run later).later := by
  fun_induction moveDown earlier run later generalizing other with
  | case1 => simp only [moveDown]
  | case2 earlier run next rest below kind shared some slid kept moved nothing ih =>
      conv => rhs; unfold moveDown
      simp only [kind, below]
      rw [if_pos some, if_pos nothing]
      exact ih _
  | case3 earlier run next rest below kind shared some slid kept moved lines ih =>
      conv => rhs; unfold moveDown
      simp only [kind, below]
      rw [if_pos some, if_neg lines]
      exact ih _
  | case4 earlier run next rest below kind shared none nothing ih =>
      conv => rhs; unfold moveDown
      simp only [kind, below]
      rw [if_neg none, if_pos nothing]
      exact ih _
  | case5 earlier run next rest below kind shared none lines =>
      conv => rhs; unfold moveDown
      simp only [kind, below]
      rw [if_neg none, if_neg lines]
  | case6 earlier run next rest below kind nothing ih =>
      conv => rhs; unfold moveDown
      simp only [kind, below]
      rw [if_pos nothing]
      exact ih _
  | case7 earlier run next rest below kind lines =>
      conv => rhs; unfold moveDown
      simp only [kind, below]
      rw [if_neg lines]
  | case8 earlier run next rest below kind ih
  | case9 earlier run next rest below kind ih
  | case10 earlier run next rest below kind ih
  | case11 earlier run next rest below kind ih =>
      conv => rhs; unfold moveDown
      simp only [kind, below]
      exact ih _
  | case12 earlier run next rest kind =>
      conv => rhs; unfold moveDown
      simp only [kind]

/-- The runs below a changed run that has moved down. -/
def landing (run : Run) (later : List Run) : List Run :=
  (moveDown [] run later).later

theorem later_moveDown (earlier : List Run) (run : Run) (later : List Run)
    : (moveDown earlier run later).later = landing run later :=
  later_moveDown_congr earlier [] run later

/-- A run that moved down has no more runs below it than before. -/
theorem length_later_moveDown_le (earlier : List Run) (run : Run) (later : List Run)
    : (moveDown earlier run later).later.length ≤ later.length := by
  fun_induction moveDown earlier run later with
  | case1 => exact Nat.le_refl _
  | case2 _ _ _ _ _ _ _ _ _ _ _ _ ih => exact Nat.le_succ_of_le ih
  | case3 _ _ _ _ _ _ _ _ _ _ _ _ ih => exact ih
  | case4 _ _ _ _ _ _ _ _ _ ih => exact Nat.le_succ_of_le ih
  | case5 => exact Nat.le_refl _
  | case6 _ _ _ _ _ _ _ ih => exact Nat.le_succ_of_le ih
  | case7 => exact Nat.le_refl _
  | case8 _ _ _ _ _ _ ih
  | case9 _ _ _ _ _ _ ih
  | case10 _ _ _ _ _ _ ih
  | case11 _ _ _ _ _ _ ih => exact Nat.le_succ_of_le ih
  | case12 => exact Nat.le_refl _

/-- Runs of different changes pass each other. -/
theorem landing_past {run next : Run} (rest : List Run) (kind : run.change ≠ .keep)
    (below : next.change ≠ .keep) (different : run.change ≠ next.change)
    : landing run (next :: rest) = landing run rest := by
  rw [landing, moveDown, ← later_moveDown [next]]
  cases first : run.change <;> cases second : next.change <;> simp_all

/-- A kept run without lines is passed. -/
theorem landing_past_nothing {run next : Run} (rest : List Run) (kind : run.change ≠ .keep)
    (below : next.change = .keep) (nothing : next.lines = [])
    : landing run (next :: rest) = landing run rest := by
  rw [landing, moveDown]
  cases first : run.change <;> simp_all [sharedFront, landing]

/-- Added lines slide down past the kept lines that they begin with. -/
theorem landing_slide (lines kept : List String) (rest : List Run)
    : landing ⟨.add, lines⟩ (⟨.keep, kept⟩ :: rest)
      = landing
          ⟨.add, lines.drop (sharedFront kept lines) ++ kept.take (sharedFront kept lines)⟩
          (⟨.keep, kept.drop (sharedFront kept lines)⟩ :: rest) := by
  by_cases slides : 0 < sharedFront kept lines
  · conv => lhs; rw [landing, moveDown]
    simp only [if_pos slides]
    split
    · next nothing =>
        rw [later_moveDown, List.isEmpty_iff.mp nothing,
          landing_past_nothing rest (by simp) rfl rfl]
    · rw [later_moveDown]
  · simp [Nat.eq_zero_of_not_pos slides]

/-- An added line slides down past one kept line that it equals, and the added lines behind it
then take the same way. Witness: the shared lines are found in one piece or in two, where the
added lines repeat.
-/
theorem landing_slide_line (line : String) (lines kept : List String) (rest : List Run)
    : landing ⟨.add, line :: lines⟩ (⟨.keep, line :: kept⟩ :: rest)
      = landing ⟨.add, lines ++ [line]⟩ (⟨.keep, kept⟩ :: rest) := by
  rw [landing_slide (line :: lines), landing_slide (lines ++ [line])]
  have within := sharedFront_le_right kept lines
  rcases sharedFront_concat kept lines line with same | ⟨more, rfl⟩
  · simp [sharedFront, same, List.drop_append_of_le_length within]
  · -- The kept lines repeat the added ones, so that the other side slides one line further.
    have all : sharedFront (lines ++ line :: more) lines = lines.length := by
      simpa [sharedFront] using sharedFront_append lines (line :: more) []
    have oneMore : sharedFront (lines ++ line :: more) (lines ++ [line])
        = lines.length + 1 := by
      simp [sharedFront_append, sharedFront]
    have again := landing_slide_line line lines more rest
    simpa [sharedFront, all, oneMore, List.take_append, List.drop_append,
      List.take_of_length_le (Nat.le_succ lines.length),
      List.drop_eq_nil_of_le (Nat.le_succ lines.length)] using again
termination_by kept.length

/-- Added lines slide down past kept lines that they begin with, in any piece, by induction over
its lines.
-/
theorem landing_slide_piece (piece lines kept : List String) (rest : List Run)
    : landing ⟨.add, piece ++ lines⟩ (⟨.keep, piece ++ kept⟩ :: rest)
      = landing ⟨.add, lines ++ piece⟩ (⟨.keep, kept⟩ :: rest) := by
  induction piece generalizing lines with
  | nil => simp
  | cons line piece ih =>
      simp only [List.cons_append]
      rw [landing_slide_line, List.append_assoc, ih (lines ++ [line]), List.append_assoc,
        List.singleton_append]

/-- Added lines slide down again past kept lines that were put in front for them. -/
theorem landing_keepInFront (piece lines : List String) (later : List Run)
    : landing ⟨.add, piece ++ lines⟩ (keepInFront piece later)
      = landing ⟨.add, lines ++ piece⟩ later := by
  unfold keepInFront
  split
  · exact landing_slide_piece piece lines _ _
  · have slid := landing_slide_piece piece lines [] later
    have passed : landing ⟨.add, lines ++ piece⟩ (⟨.keep, []⟩ :: later)
        = landing ⟨.add, lines ++ piece⟩ later :=
      landing_past_nothing later (by simp) rfl rfl
    rwa [List.append_nil, passed] at slid

end RecordSmith.Drift
