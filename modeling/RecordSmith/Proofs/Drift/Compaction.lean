import RecordSmith.Proofs.Drift.Landing

/-! Compaction comes to its end within the steps it is given. What decreases is a count of runs
in which a kept run between changed ones is free, and with the same count the number of runs
that are left.
-/

namespace RecordSmith.Drift

-----------------------------------------------------------------------------------------
-- The bulk of runs
-----------------------------------------------------------------------------------------

/-- One if the first run is a kept one. -/
def keptAhead : List Run → Nat
  | [] => 0
  | run :: _ => if run.change = .keep then 1 else 0

/-- Two for each changed run, and one for each kept run in front of another kept one. -/
def bulk : List Run → Nat
  | [] => 0
  | run :: rest => bulk rest + if run.change = .keep then keptAhead rest else 2

theorem keptAhead_cons (run : Run) (rest : List Run)
    : keptAhead (run :: rest) = if run.change = .keep then 1 else 0 :=
  rfl

theorem keptAhead_le_one (runs : List Run)
    : keptAhead runs ≤ 1 := by
  cases runs with
  | nil => exact Nat.zero_le 1
  | cons run rest =>
      rw [keptAhead_cons]
      split
      · exact Nat.le_refl 1
      · exact Nat.zero_le 1

theorem bulk_cons_changed {run : Run} (kind : run.change ≠ .keep) (rest : List Run)
    : bulk (run :: rest) = bulk rest + 2 := by
  simp [bulk, kind]

theorem bulk_le_cons (run : Run) (rest : List Run)
    : bulk rest ≤ bulk (run :: rest) :=
  Nat.le_add_right _ _

theorem bulk_cons_congr {run other : Run} (same : run.change = other.change) (rest : List Run)
    : bulk (run :: rest) = bulk (other :: rest) := by
  simp only [bulk, same]

/-- A kept run in front of a changed one does not count. -/
theorem bulk_cons_kept {run : Run} {rest : List Run} (kind : run.change = .keep)
    (free : keptAhead rest = 0)
    : bulk (run :: rest) = bulk rest := by
  simp [bulk, kind, free]

theorem bulk_keepInFront (lines : List String) (runs : List Run)
    : bulk (keepInFront lines runs) = bulk runs := by
  unfold keepInFront
  split
  · exact bulk_cons_congr rfl _
  · next changed =>
      apply bulk_cons_kept rfl
      cases runs with
      | nil => rfl
      | cons run rest =>
          obtain ⟨change, more⟩ := run
          cases change with
          | keep => exact (changed more rest rfl).elim
          | drop => rfl
          | add => rfl

/-- Kept lines are put behind runs that stand last first as they are put in front. -/
theorem bulk_keepBehind (lines : List String) (runs : List Run)
    : bulk (keepBehind lines runs) = bulk runs := by
  rw [← bulk_keepInFront lines runs]
  unfold keepBehind keepInFront
  split
  · exact bulk_cons_congr rfl _
  · rfl

/-- There is at most one run more than the bulk. -/
theorem length_le_bulk (runs : List Run)
    : runs.length ≤ bulk runs + keptAhead runs := by
  induction runs with
  | nil => exact Nat.le_refl _
  | cons run rest ih =>
      have := keptAhead_le_one rest
      by_cases kind : run.change = .keep
      · have : keptAhead (run :: rest) = 1 := if_pos kind
        simp only [List.length_cons, bulk, if_pos kind]
        omega
      · rw [bulk_cons_changed kind, List.length_cons]
        omega

theorem bulk_le_length (runs : List Run)
    : bulk runs ≤ 2 * runs.length := by
  induction runs with
  | nil => exact Nat.le_refl _
  | cons run rest ih =>
      have := keptAhead_le_one rest
      simp only [List.length_cons, bulk]
      split <;> omega

-----------------------------------------------------------------------------------------
-- Moves
-----------------------------------------------------------------------------------------

/-- The bulk of the runs above and below a changed one. -/
def Focus.bulk (focus : Focus) : Nat :=
  Drift.bulk focus.earlier + Drift.bulk focus.later

/-- One changed run stays in focus and the runs around it have no more bulk. With the same bulk
it comes to rest at the same place when it moves down.
-/
structure Focus.Lifts (start finish : Focus) : Prop where
  changed : finish.run.change ≠ .keep
  bulk_le : finish.bulk ≤ start.bulk
  landing : finish.bulk = start.bulk
    → landing finish.run finish.later = landing start.run start.later

theorem Focus.Lifts.refl {focus : Focus} (changed : focus.run.change ≠ .keep)
    : focus.Lifts focus :=
  ⟨changed, Nat.le_refl _, fun _ => rfl⟩

theorem Focus.Lifts.trans {start middle finish : Focus} (first : start.Lifts middle)
    (second : middle.Lifts finish)
    : start.Lifts finish := by
  refine ⟨second.changed, Nat.le_trans second.bulk_le first.bulk_le, ?_⟩
  intro same
  have firstLe := first.bulk_le
  have secondLe := second.bulk_le
  rw [second.landing (by omega), first.landing (by omega)]

section Steps

variable {previous run : Run} {rest later : List Run}

theorem Focus.Lifts.leave_out (previous : Run) (kind : run.change ≠ .keep)
    : Focus.Lifts ⟨previous :: rest, run, later⟩ ⟨rest, run, later⟩ :=
  ⟨kind, Nat.add_le_add_right (bulk_le_cons previous rest) _, fun _ => rfl⟩

theorem Focus.Lifts.swap (kind : run.change ≠ .keep) (above : previous.change ≠ .keep)
    (different : run.change ≠ previous.change)
    : Focus.Lifts ⟨previous :: rest, run, later⟩ ⟨rest, run, previous :: later⟩ := by
  refine ⟨kind, ?_, fun _ => landing_past later kind above different⟩
  simp only [Focus.bulk, bulk_cons_changed above]
  omega

/-- A run that takes up another one lessens the bulk. -/
theorem Focus.Lifts.join {joined : Run} (kind : joined.change ≠ .keep)
    (above : previous.change ≠ .keep)
    : Focus.Lifts ⟨previous :: rest, run, later⟩ ⟨rest, joined, later⟩ := by
  have less : Focus.bulk ⟨rest, joined, later⟩
      < Focus.bulk ⟨previous :: rest, run, later⟩ := by
    simp only [Focus.bulk, bulk_cons_changed above]
    omega
  exact ⟨kind, Nat.le_of_lt less, fun same => absurd same (Nat.ne_of_lt less)⟩

/-- Added lines that slid up can slide down again. -/
theorem Focus.Lifts.slide {kept slid lines : List String} (kind : run.change = .add)
    (above : previous.change = .keep) (whole : run.lines = lines ++ slid)
    : Focus.Lifts ⟨previous :: rest, run, later⟩
        ⟨⟨.keep, kept⟩ :: rest, ⟨.add, slid ++ lines⟩, keepInFront slid later⟩ := by
  obtain rfl : run = ⟨.add, lines ++ slid⟩ := by
    rw [← kind, ← whole]
  refine ⟨by simp, ?_, fun _ => landing_keepInFront slid lines later⟩
  simp only [Focus.bulk, bulk_keepInFront]
  exact Nat.le_of_eq (congrArg (· + _) (bulk_cons_congr above.symm rest))

end Steps

/-- A changed run that moves up can come down to where it would have come from its start, by
induction over its way.
-/
theorem moveUp_lifts (earlier : List Run) (run : Run) (later : List Run)
    (kind : run.change ≠ .keep)
    : Focus.Lifts ⟨earlier, run, later⟩ (moveUp earlier run later) := by
  fun_induction moveUp earlier run later with
  | case1 => exact .refl kind
  | case2 run later previous rest above added shared _ kept slid moved nothing ih =>
      have slides : Focus.Lifts ⟨previous :: rest, run, later⟩
          ⟨⟨.keep, kept⟩ :: rest, moved, keepInFront slid later⟩ :=
        .slide added above (take_append_sharedEnd previous.lines run.lines).symm
      exact slides.trans ((Focus.Lifts.leave_out _ (by simp [moved])).trans (ih (by simp [moved])))
  | case3 run later previous rest above added shared _ kept slid moved something ih =>
      have slides : Focus.Lifts ⟨previous :: rest, run, later⟩
          ⟨⟨.keep, kept⟩ :: rest, moved, keepInFront slid later⟩ :=
        .slide added above (take_append_sharedEnd previous.lines run.lines).symm
      exact slides.trans (ih (by simp [moved]))
  | case4 run later previous rest above added shared _ nothing ih =>
      exact (Focus.Lifts.leave_out previous kind).trans (ih kind)
  | case5 => exact .refl kind
  | case6 run later previous rest above dropped nothing ih =>
      exact (Focus.Lifts.leave_out previous kind).trans (ih kind)
  | case7 => exact .refl kind
  | case8 run later previous rest above added ih =>
      exact (Focus.Lifts.swap kind (by simp [above]) (by simp [above, added])).trans (ih kind)
  | case9 run later previous rest above dropped ih =>
      exact (Focus.Lifts.swap kind (by simp [above]) (by simp [above, dropped])).trans (ih kind)
  | case10 run later previous rest above added ih =>
      exact (Focus.Lifts.join (by simp) (by simp [above])).trans (ih (by simp))
  | case11 run later previous rest above dropped ih =>
      exact (Focus.Lifts.join (by simp) (by simp [above])).trans (ih (by simp))
  | case12 => exact .refl kind

/-- A changed run that moves down does not add to the bulk of the runs around it. -/
theorem moveDown_bulk_le (earlier : List Run) (run : Run) (later : List Run)
    (kind : run.change ≠ .keep)
    : (moveDown earlier run later).run.change ≠ .keep
      ∧ (moveDown earlier run later).bulk ≤ bulk earlier + bulk later := by
  fun_induction moveDown earlier run later with
  | case1 => exact ⟨kind, Nat.le_refl _⟩
  | case2 earlier run next rest below added shared _ slid kept moved nothing ih =>
      have further := ih (by simp [moved])
      have := bulk_le_cons next rest
      rw [bulk_keepBehind] at further
      exact ⟨further.1, by omega⟩
  | case3 earlier run next rest below added shared _ slid kept moved something ih =>
      have further := ih (by simp [moved])
      rw [bulk_keepBehind, bulk_cons_congr below.symm] at further
      exact further
  | case4 earlier run next rest below added shared _ nothing ih
  | case6 earlier run next rest below dropped nothing ih =>
      have further := ih kind
      have := bulk_le_cons next rest
      exact ⟨further.1, by omega⟩
  | case5 => exact ⟨kind, Nat.le_refl _⟩
  | case7 => exact ⟨kind, Nat.le_refl _⟩
  | case8 earlier run next rest below _ ih
  | case9 earlier run next rest below _ ih =>
      have changed : next.change ≠ .keep := by simp [below]
      have further := ih kind
      rw [bulk_cons_changed changed] at further ⊢
      exact ⟨further.1, by omega⟩
  | case10 earlier run next rest below _ ih
  | case11 earlier run next rest below _ ih =>
      have further := ih (by simp)
      have := bulk_le_cons next rest
      exact ⟨further.1, by omega⟩
  | case12 => exact ⟨kind, Nat.le_refl _⟩

-----------------------------------------------------------------------------------------
-- Compaction
-----------------------------------------------------------------------------------------

/-- Compaction moves each run of one change upward and then downward, from the first to the last,
until no run is left.
-/
inductive Compacts (change : Change) : List Run → List Run → List Run → Prop
  | finished {done : List Run} : Compacts change done [] done.reverse
  | move {done rest result : List Run} {run : Run} {up down : Focus}
      (kind : run.change = change) (upward : up = moveUp done run rest)
      (downward : down = moveDown up.earlier up.run up.later)
      (further : Compacts change (down.run :: down.earlier) down.later result)
      : Compacts change done (run :: rest) result
  | pass {done rest result : List Run} {run : Run} (kind : run.change ≠ change)
      (further : Compacts change (run :: done) rest result)
      : Compacts change done (run :: rest) result

/-- Each move of a compaction keeps both sides, and so do all of them. -/
theorem Compacts.sameSides {change : Change} {done runs result : List Run}
    (compacts : Compacts change done runs result)
    : SameSides result (done.reverse ++ runs) := by
  induction compacts with
  | finished => simpa using SameSides.refl _
  | @move done rest result run up down _ upward downward _ ih =>
      have raised := moveUp_sameSides done run rest
      have lowered := moveDown_sameSides up.earlier up.run up.later
      rw [← upward] at raised
      rw [← downward] at lowered
      refine ih.trans (SameSides.trans ?_ (lowered.trans raised))
      simpa [Focus.runs] using SameSides.refl down.runs
  | pass _ _ ih => simpa using ih

/-- The bulk of runs of which those that are done stand last first. -/
def bulkAround (done runs : List Run) : Nat :=
  bulk done + bulk runs + min (keptAhead done) (keptAhead runs)

/-- Around a changed run the bulk is that of both sides. -/
theorem bulkAround_changed {run : Run} (kind : run.change ≠ .keep) (done rest : List Run)
    : bulkAround done (run :: rest) = bulk done + bulk rest + 2 := by
  have : keptAhead (run :: rest) = 0 := if_neg kind
  rw [bulkAround, bulk_cons_changed kind]
  omega

/-- A run that is passed keeps the bulk. -/
theorem bulkAround_pass (done rest : List Run) (run : Run)
    : bulkAround (run :: done) rest = bulkAround done (run :: rest) := by
  have := keptAhead_le_one done
  have := keptAhead_le_one rest
  simp only [bulkAround, bulk, keptAhead_cons]
  split
  · omega
  · omega

/-- A compaction comes to its end if its steps suffice for the bulk and for the runs that are
left. Witness: moving a run leaves fewer runs with the same bulk, or less bulk.
-/
theorem compactFrom_compacts {change : Change} (changed : change ≠ .keep) {bound : Nat}
    (steps : Nat) (done runs : List Run) (fits : bulkAround done runs ≤ bound)
    (enough : bulkAround done runs * bound + runs.length ≤ steps)
    : Compacts change done runs (compactFrom change steps done runs) := by
  fun_induction compactFrom change steps done runs with
  | case1 done runs =>
      obtain rfl : runs = [] := List.length_eq_zero_iff.mp (by omega)
      rw [List.append_nil]
      exact .finished
  | case2 => exact .finished
  | case3 steps done run rest kind up down ih =>
      have runChanged : run.change ≠ .keep := kind ▸ changed
      have lifts : Focus.Lifts ⟨done, run, rest⟩ up := moveUp_lifts done run rest runChanged
      have lifted : up.bulk ≤ bulk done + bulk rest := lifts.bulk_le
      obtain ⟨downChanged, lighter⟩ : down.run.change ≠ .keep ∧ down.bulk ≤ up.bulk :=
        moveDown_bulk_le up.earlier up.run up.later lifts.changed
      have around : bulkAround (down.run :: down.earlier) down.later = down.bulk + 2 := by
        rw [bulkAround_pass, bulkAround_changed downChanged]
        rfl
      rw [bulkAround_changed runChanged] at fits enough
      rw [List.length_cons] at enough
      refine .move kind rfl rfl (ih (by omega) ?_)
      rw [around]
      by_cases same : up.bulk = bulk done + bulk rest
      -- Nothing was saved on the way up: the run is back, and those below it are fewer.
      · have fewer : down.later.length ≤ rest.length := by
          rw [later_moveDown, lifts.landing same, ← later_moveDown []]
          exact length_later_moveDown_le [] run rest
        have := Nat.mul_le_mul_right bound
          (show down.bulk + 2 ≤ bulk done + bulk rest + 2 by omega)
        omega
      -- Less bulk pays for all runs that may have to be met again.
      · have few : down.later.length ≤ down.bulk + 1 := by
          have := length_le_bulk down.later
          have := keptAhead_le_one down.later
          simp only [Focus.bulk]
          omega
        have less := Nat.mul_le_mul_right bound
          (show down.bulk + 2 + 1 ≤ bulk done + bulk rest + 2 by omega)
        rw [Nat.add_one_mul] at less
        omega
  | case4 steps done run rest other ih =>
      rw [← bulkAround_pass] at fits enough
      exact .pass other (ih fits (by simp only [List.length_cons] at enough; omega))

/-- The steps of a compaction suffice for its runs. -/
theorem compactFrom_stepBound {change : Change} (changed : change ≠ .keep) (runs : List Run)
    : Compacts change [] runs (compactFrom change (stepBound runs.length) [] runs) := by
  have small := bulk_le_length runs
  have around : bulkAround [] runs = bulk runs := by
    simp [bulkAround, bulk, keptAhead]
  have fits : bulkAround [] runs ≤ 2 * runs.length := by
    rwa [around]
  refine compactFrom_compacts changed _ _ _ fits ?_
  have := Nat.mul_le_mul_right (2 * runs.length) small
  rw [around, stepBound, Nat.add_mul, Nat.mul_add]
  omega

end RecordSmith.Drift
