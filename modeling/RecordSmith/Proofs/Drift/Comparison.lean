import RecordSmith.Proofs.Drift.Meeting
import RecordSmith.Proofs.Drift.Sides

/-! The comparison of two sequences divides them where two searches meet, down to parts of which
one is empty, and leads from the first sequence to the second.
-/

namespace RecordSmith.Drift

/-- The lines of a run that is there unless it has none. -/
theorem runOf_sameSides (change : Change) (lines : List String)
    : SameSides (runOf change lines) [⟨change, lines⟩] := by
  unfold runOf
  split
  · next nothing =>
      rw [List.isEmpty_iff.mp nothing]
      constructor <;> simp [Run.before, Run.after]
  · exact .refl _

/-- Replacing a sequence as a whole leads from it. -/
theorem before_replaceAll (old new : List String)
    : (replaceAll old new).flatMap Run.before = old := by
  have sides := (runOf_sameSides .drop old).append (runOf_sameSides .add new)
  rw [replaceAll, sides.before]
  simp [Run.before]

theorem after_replaceAll (old new : List String)
    : (replaceAll old new).flatMap Run.after = new := by
  have sides := (runOf_sameSides .drop old).append (runOf_sameSides .add new)
  rw [replaceAll, sides.after]
  simp [Run.after]

/-- Two replacements one after the other replace both sequences. -/
theorem replaceAll_append (old new more others : List String)
    : SameSides (replaceAll old new ++ replaceAll more others)
        (replaceAll (old ++ more) (new ++ others)) := by
  constructor
  · rw [List.flatMap_append, before_replaceAll, before_replaceAll, before_replaceAll]
  · rw [List.flatMap_append, after_replaceAll, after_replaceAll, after_replaceAll]

/-- Kept lines replace themselves. -/
theorem keep_sameSides (lines : List String)
    : SameSides (runOf .keep lines) (replaceAll lines lines) := by
  refine (runOf_sameSides .keep lines).trans ⟨?_, ?_⟩
  · rw [before_replaceAll]
    simp [Run.before]
  · rw [after_replaceAll]
    simp [Run.after]

/-- Trimming cuts the first sequence into its parts. -/
theorem trim_old (old new : List String)
    : (trim old new).front ++ (trim old new).old ++ (trim old new).tail = old := by
  rw [List.append_assoc]
  simp only [trim, List.take_append_drop]

theorem trim_new (old new : List String)
    : (trim old new).front ++ (trim old new).new ++ (trim old new).tail = new := by
  rw [List.append_assoc]
  simp only [trim, take_append_sharedEnd, sharedFront_append_drop]

/-- What lies between shared ends may be compared by itself. -/
theorem SameSides.within_ends {old new : List String} {inner : List Run}
    (same : SameSides inner (replaceAll (trim old new).old (trim old new).new))
    : SameSides
        (runOf .keep (trim old new).front ++ inner ++ runOf .keep (trim old new).tail)
        (replaceAll old new) := by
  have front := (keep_sameSides (trim old new).front).append same
  have whole := (front.trans (replaceAll_append _ _ _ _)).append
    (keep_sameSides (trim old new).tail)
  have joined := whole.trans (replaceAll_append _ _ _ _)
  rwa [trim_old, trim_new] at joined

/-- Both parts of a split may be compared by themselves. -/
theorem SameSides.at_point {old new : List String} {first second : List Run} (point : Point)
    (front : SameSides first (replaceAll (old.take point.old) (new.take point.new)))
    (back : SameSides second (replaceAll (old.drop point.old) (new.drop point.new)))
    : SameSides (first ++ second) (replaceAll old new) := by
  have joined := (front.append back).trans (replaceAll_append _ _ _ _)
  rwa [List.take_append_drop, List.take_append_drop] at joined

-----------------------------------------------------------------------------------------
-- Division
-----------------------------------------------------------------------------------------

/-- What trimming leaves of two sequences shares no line at either end. -/
theorem trim_unlike {old new : List String} (someOld : (trim old new).old ≠ [])
    (someNew : (trim old new).new ≠ [])
    : Unlike (trim old new).old (trim old new).new where
  someOld := List.length_pos_iff.mpr someOld
  someNew := List.length_pos_iff.mpr someNew
  front := by
    apply Nat.eq_zero_of_le_zero
    rw [← sharedFront_drop old new]
    exact sharedFront_take_le _ _ _ _
  tail := by
    have inOld := sharedEnd_le_left (old.drop (sharedFront old new))
      (new.drop (sharedFront old new))
    have inNew := sharedFront_le_right (old.drop (sharedFront old new)).reverse
      (new.drop (sharedFront old new)).reverse
    rw [List.length_reverse] at inNew
    simp only [trim, sharedEnd, List.reverse_take] at inOld ⊢
    rw [Nat.sub_sub_self inOld, Nat.sub_sub_self inNew]
    exact sharedFront_drop _ _

/-- Two sequences are compared with the cells of earlier searches: lines shared at both ends are
kept, and what is left is replaced if a part of it is empty and divided where two searches meet
otherwise.
-/
inductive Divides : Progress → List String → List String → List Run × Progress → Prop
  | whole {progress : Progress} {old new : List String}
      (empty : (trim old new).old = [] ∨ (trim old new).new = [])
      : Divides progress old new
          (runOf .keep (trim old new).front ++ replaceAll (trim old new).old (trim old new).new
            ++ runOf .keep (trim old new).tail, progress)
  | split {progress searched : Progress} {old new : List String} {point : Point}
      {first second : List Run × Progress}
      (met : meeting (trim old new).old (trim old new).new progress = (some point, searched))
      (inside : point.Inside (trim old new).old (trim old new).new)
      (front : Divides searched ((trim old new).old.take point.old)
        ((trim old new).new.take point.new) first)
      (back : Divides first.2 ((trim old new).old.drop point.old)
        ((trim old new).new.drop point.new) second)
      : Divides progress old new
          (runOf .keep (trim old new).front ++ (first.1 ++ second.1)
            ++ runOf .keep (trim old new).tail, second.2)

/-- A division replaces the first sequence by the second, by induction over its splits. -/
theorem Divides.sameSides {progress : Progress} {old new : List String}
    {result : List Run × Progress} (divides : Divides progress old new result)
    : SameSides result.1 (replaceAll old new) := by
  induction divides with
  | whole => exact .within_ends (.refl _)
  | split _ _ _ _ ihFront ihBack => exact .within_ends (.at_point _ ihFront ihBack)

theorem distanceBound_mono {old new shorter short : Nat} (le : shorter + short ≤ old + new)
    : distanceBound shorter short ≤ distanceBound old new := by
  simp only [distanceBound]
  omega

/-- A comparison with room for its searches divides the sequences and leaves the room to the
next one. Witness: the searches of each part meet inside of it, so that no part is given up.
-/
theorem compareFrom_divides {bound : Nat} (progress : Progress) (old new : List String)
    (room : progress.HasRoom bound) (fits : distanceBound old.length new.length ≤ bound)
    : Divides progress old new (compareFrom progress old new)
      ∧ (compareFrom progress old new).2.HasRoom bound := by
  fun_induction compareFrom progress old new with
  | case1 progress old new ends shorter inner ihFirst _ ihSecond =>
      have partFits {some more : Nat} (le : some + more ≤ ends.old.length + ends.new.length)
          : distanceBound some more ≤ bound :=
        Nat.le_trans (distanceBound_mono (Nat.le_trans le shorter)) fits
      by_cases empty : ends.old = [] ∨ ends.new = []
      · have unsplit : inner = (replaceAll ends.old ends.new, progress) :=
          if_pos (by simpa using empty)
        rw [unsplit]
        exact ⟨.whole empty, room⟩
      · obtain ⟨someOld, someNew⟩ := not_or.mp empty
        obtain ⟨point, searched, met, inside, searchedRoom⟩
            : ∃ point searched, meeting ends.old ends.new progress = (some point, searched)
              ∧ point.Inside ends.old ends.new ∧ searched.HasRoom bound :=
          meeting_inside (trim_unlike someOld someNew) room (partFits (Nat.le_refl _))
        have first := ihFirst point searched inside searchedRoom
          (partFits (Nat.le_of_lt inside.front_lt))
        have second := ihSecond point searched inside first.2
          (partFits (Nat.le_of_lt inside.rest_lt))
        simp only [inner]
        rw [dif_neg (by simpa using empty), met]
        simp only [dif_pos inside]
        exact ⟨.split met inside first.1 second.1, second.2⟩

/-- Two sequences are compared by division from cells that no search has used. -/
theorem compare_divides (old new : List String)
    : ∃ searched, Divides (.none old.length new.length) old new (compare old new, searched) :=
  ⟨_, (compareFrom_divides _ old new ⟨Reach.hasRoom_none _, Reach.hasRoom_none _⟩
    (Nat.le_refl _)).1⟩

end RecordSmith.Drift
