import RecordSmith.Drift.Script

/-! The lines that two sequences share at an end: they are the same lines on both sides, and no
line next to them is shared.
-/

namespace RecordSmith.Drift

theorem sharedFront_comm (old new : List String)
    : sharedFront old new = sharedFront new old := by
  fun_induction sharedFront old new with
  | case1 rest line others ih => simp [sharedFront, ih]
  | case2 line rest other others different =>
      simp [sharedFront, Ne.symm different]
  | case3 old new noPair =>
      unfold sharedFront
      split
      · exact (noPair _ _ _ _ rfl rfl).elim
      · rfl

/-- Sequences share no more lines at the front than the second has. -/
theorem sharedFront_le_right (old new : List String)
    : sharedFront old new ≤ new.length := by
  rw [sharedFront_comm]
  exact sharedFront_le_left new old

/-- The shared lines at the front are the same on both sides. -/
theorem take_sharedFront (old new : List String)
    : old.take (sharedFront old new) = new.take (sharedFront old new) := by
  fun_induction sharedFront old new with
  | case1 rest line others ih => simp [ih]
  | case2 => simp
  | case3 => simp

/-- Lines that are the same at the front of both sequences are shared. -/
theorem le_sharedFront {old new : List String} {count : Nat}
    (within : count ≤ old.length) (same : old.take count = new.take count)
    : count ≤ sharedFront old new := by
  fun_induction sharedFront old new generalizing count with
  | case1 rest line others ih =>
      cases count with
      | zero => exact Nat.zero_le _
      | succ count =>
          simp only [List.take_succ_cons, List.cons.injEq, true_and] at same
          simp only [List.length_cons] at within
          exact Nat.succ_le_succ (ih (by omega) same)
  | case2 line rest other others different =>
      cases count with
      | zero => exact Nat.zero_le _
      | succ count =>
          simp only [List.take_succ_cons, List.cons.injEq] at same
          exact (different same.1).elim
  | case3 old new noPair =>
      cases old with
      | nil => exact within
      | cons line rest =>
          cases new with
          | nil =>
              cases count with
              | zero => exact Nat.zero_le _
              | succ count => cases same
          | cons other others => exact (noPair line rest other others rfl rfl).elim

/-- Behind the shared lines at the front no line is shared. -/
theorem sharedFront_drop (old new : List String)
    : sharedFront (old.drop (sharedFront old new)) (new.drop (sharedFront old new)) = 0 := by
  fun_induction sharedFront old new with
  | case1 rest line others ih => simpa using ih
  | case2 line rest other others different => simp [sharedFront, different]
  | case3 old new noPair =>
      simp only [List.drop_zero]
      unfold sharedFront
      split
      · exact (noPair _ _ _ _ rfl rfl).elim
      · rfl

/-- Shorter sequences share no more lines at the front. -/
theorem sharedFront_take_le (old new : List String) (first second : Nat)
    : sharedFront (old.take first) (new.take second) ≤ sharedFront old new := by
  have inOld := sharedFront_le_left (old.take first) (new.take second)
  have inNew := sharedFront_le_right (old.take first) (new.take second)
  have same := take_sharedFront (old.take first) (new.take second)
  simp only [List.length_take] at inOld inNew
  rw [List.take_take, List.take_take, Nat.min_eq_left (by omega), Nat.min_eq_left (by omega)]
    at same
  exact le_sharedFront (by omega) same

/-- The lines shared with a sequence that has one line more are the same, or they are all of the
shorter one and the line after it.
-/
theorem sharedFront_concat (old new : List String) (line : String)
    : sharedFront old (new ++ [line]) = sharedFront old new
      ∨ ∃ more, old = new ++ line :: more := by
  fun_induction sharedFront old new with
  | case1 rest first others ih =>
      rcases ih with same | ⟨more, rfl⟩
      · left
        simp [sharedFront, same]
      · exact .inr ⟨more, rfl⟩
  | case2 first rest other others different =>
      left
      simp [sharedFront, different]
  | case3 old new noPair =>
      cases old with
      | nil => exact .inl rfl
      | cons first rest =>
          cases new with
          | nil =>
              by_cases same : first = line
              · exact .inr ⟨rest, same ▸ rfl⟩
              · exact .inl (by simp [sharedFront, same])
          | cons other others => exact (noPair first rest other others rfl rfl).elim

theorem sharedFront_append (lines more others : List String)
    : sharedFront (lines ++ more) (lines ++ others)
      = lines.length + sharedFront more others := by
  induction lines with
  | nil => simp
  | cons line rest ih =>
      simp only [List.cons_append, sharedFront, if_true, ih, List.length_cons]
      omega

/-- A sequence begins with the lines that it shares with another at the front. -/
theorem sharedFront_append_drop (old new : List String)
    : old.take (sharedFront old new) ++ new.drop (sharedFront old new) = new := by
  rw [take_sharedFront, List.take_append_drop]

/-- The shared lines at the end are the same on both sides, by reversal. -/
theorem drop_sharedEnd (old new : List String)
    : old.drop (old.length - sharedEnd old new)
      = new.drop (new.length - sharedEnd old new) := by
  have same := take_sharedFront old.reverse new.reverse
  rw [List.take_reverse, List.take_reverse] at same
  exact List.reverse_inj.mp same

/-- A sequence ends in the lines that it shares with another at the end. -/
theorem take_append_sharedEnd (old new : List String)
    : new.take (new.length - sharedEnd old new) ++ old.drop (old.length - sharedEnd old new)
      = new := by
  rw [drop_sharedEnd, List.take_append_drop]

end RecordSmith.Drift
