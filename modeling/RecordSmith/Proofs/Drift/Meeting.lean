import RecordSmith.Drift.Comparison
import RecordSmith.Proofs.Drift.Sweep

/-! Two searches towards each other always meet, and they meet inside of the comparison. The
cells they work on may hold anything before.
-/

namespace RecordSmith.Drift

-----------------------------------------------------------------------------------------
-- Searches that have not met
-----------------------------------------------------------------------------------------

/-- Two searches have not met: on the diagonals where both have come, they are less than the
first sequence together. A diagonal counts from the other end in the other search.
-/
def Apart (old new : Nat) (distance otherDistance : Int) (own other : Reach) : Prop :=
  ∀ diagonal : Int, OnRow distance diagonal → OnRow otherDistance (old - new - diagonal)
    → own.get diagonal + other.get (old - new - diagonal) < old

section Apart

variable {old new distance : Nat} {otherDistance : Int} {own other : Reach}
  (frontier : Frontier old new distance own)
  (otherAdvanced : ∀ diagonal : Int, OnRow (otherDistance - 1) diagonal
    → diagonal ≤ other.get diagonal)
  (apart : Apart old new distance (otherDistance - 1) own other)
include otherAdvanced apart

/-- Where both searches have come without a meeting, a search is inside of both sequences. -/
theorem Apart.inner {diagonal : Int} (on : OnRow distance diagonal)
    (otherOn : OnRow (otherDistance - 1) (old - new - diagonal))
    : own.get diagonal < old ∧ own.get diagonal < new + diagonal := by
  have short := apart diagonal on otherOn
  have advanced := otherAdvanced _ otherOn
  omega

include frontier

/-- A step from the upper neighbour stays in both sequences. If the other search has not come to
that neighbour, it has come to the lower one, which would be past the end as well.
-/
theorem Frontier.upper_inside (close : distance ≤ otherDistance) {diagonal : Int}
    (otherOn : OnRow otherDistance (old - new - diagonal))
    (source : OnRow distance (diagonal + 1))
    : own.get (diagonal + 1) ≤ old ∧ own.get (diagonal + 1) ≤ new + diagonal := by
  by_cases seen : OnRow (otherDistance - 1) (old - new - (diagonal + 1))
  · have inner := Apart.inner otherAdvanced apart source seen
    omega
  · have within : own.get (diagonal + 1) ≤ old := by
      apply Nat.le_of_not_lt
      intro past
      obtain ⟨lower, follows⟩ := frontier.below _ source past
      have inner := Apart.inner otherAdvanced apart lower (by
        simp only [OnRow] at *
        omega)
      omega
    simp only [OnRow] at otherOn seen
    omega

/-- A step from the lower neighbour stays in both sequences. If the other search has not come to
that neighbour, it has come to the upper one, which would be past the end as well.
-/
theorem Frontier.lower_inside (close : distance ≤ otherDistance) {diagonal : Int}
    (otherOn : OnRow otherDistance (old - new - diagonal))
    (source : OnRow distance (diagonal - 1))
    : own.get (diagonal - 1) + 1 ≤ old ∧ own.get (diagonal - 1) + 1 ≤ new + diagonal := by
  by_cases seen : OnRow (otherDistance - 1) (old - new - (diagonal - 1))
  · have inner := Apart.inner otherAdvanced apart source seen
    omega
  · have within : own.get (diagonal - 1) ≤ new + (diagonal - 1) := by
      apply Int.not_lt.mp
      intro past
      obtain ⟨upper, follows⟩ := frontier.above _ source past
      have inner := Apart.inner otherAdvanced apart upper (by
        simp only [OnRow] at *
        omega)
      omega
    simp only [OnRow] at otherOn seen
    omega

/-- Where the next step may end in a meeting, it starts in both sequences, past their start. -/
theorem Frontier.start_inside (close : distance ≤ otherDistance) {diagonal : Int}
    (on : OnRow (distance + 1) diagonal)
    (otherOn : OnRow otherDistance (old - new - diagonal))
    : own.start (distance + 1) diagonal ≤ old
      ∧ diagonal ≤ own.start (distance + 1) diagonal
      ∧ own.start (distance + 1) diagonal ≤ new + diagonal
      ∧ diagonal < 2 * own.start (distance + 1) diagonal := by
  rcases own.start_cases on with ⟨source, start, _⟩ | ⟨source, start, _⟩
  · have inside := frontier.upper_inside otherAdvanced apart close otherOn source
    have advanced := frontier.advanced _ _ (Int.le_refl _) (by omega) source
    omega
  · have inside := frontier.lower_inside otherAdvanced apart close otherOn source
    have advanced := frontier.advanced _ _ (Int.le_refl _) (by omega) source
    omega

/-- Where the next step may end in a meeting, it does not start at the end of both sequences:
on the diagonal of that end, the other search has come to both neighbours unless neither search
has moved.
-/
theorem Frontier.start_before_end (close : distance ≤ otherDistance)
    (resting : distance = 0 → own.get 0 = 0) (someOld : 0 < old) (someNew : 0 < new)
    {diagonal : Int} (on : OnRow (distance + 1) diagonal)
    (otherOn : OnRow otherDistance (old - new - diagonal))
    : own.start (distance + 1) diagonal < old
      ∨ own.start (distance + 1) diagonal < new + diagonal := by
  have inside := frontier.start_inside otherAdvanced apart close on otherOn
  by_cases first : distance = 0
  -- One step from the origin ends both sequences only if one of them has no lines.
  · have origin {cell : Int} (source : OnRow distance cell) : cell = 0 ∧ own.get cell = 0 := by
      obtain rfl : cell = 0 := by
        simp only [OnRow] at source
        omega
      exact ⟨rfl, resting first⟩
    rcases own.start_cases on with ⟨source, start, _⟩ | ⟨source, start, _⟩
    · have := origin source
      omega
    · have := origin source
      omega
  · by_cases lastDiagonal : diagonal = old - new
    · rcases own.start_cases on with ⟨source, start, _⟩ | ⟨source, start, _⟩
      · have inner := Apart.inner otherAdvanced apart source (by
          simp only [OnRow] at *
          omega)
        omega
      · have inner := Apart.inner otherAdvanced apart source (by
          simp only [OnRow] at *
          omega)
        omega
    · omega

end Apart

-----------------------------------------------------------------------------------------
-- The search at growing distances
-----------------------------------------------------------------------------------------

/-- Both searches have room for all diagonals below the bound. -/
def Progress.HasRoom (progress : Progress) (bound : Nat) : Prop :=
  progress.forward.HasRoom bound ∧ progress.backward.HasRoom bound

/-- One round of both searches at a distance. -/
def searchRound (old new : List String) (distance : Nat) (progress : Progress)
    : Option Point × Progress :=
  match stepForward old new distance (diagonals distance) progress with
  | (some point, after) => (some point, after)
  | (.none, after) =>
      stepBackward old new old.reverse new.reverse distance (diagonals distance) after

/-- A search goes on after a round without a meeting. -/
theorem searchFrom_succ (old new : List String) (distance tries : Nat) (progress : Progress)
    : searchFrom old new old.reverse new.reverse distance (tries + 1) progress
      = match searchRound old new distance progress with
        | (some point, after) => (some point, after)
        | (.none, after) =>
            searchFrom old new old.reverse new.reverse (distance + 1) tries after := by
  simp only [searchFrom, searchRound]
  rcases stepForward old new distance (diagonals distance) progress with ⟨_ | point, after⟩
  · rfl
  · rfl

/-- What one round of both searches can do at a distance. Either the search from the start meets
the other one, or it has moved and the search from the end meets it, or both have moved.
-/
inductive Round (old new : List String) (bound distance : Nat) (progress : Progress)
    : Option Point × Progress → Prop
  | metForward {diagonal : Int} {after : Progress} (on : OnRow distance diagonal)
      (meets : meetsForward old.length new.length distance progress.backward diagonal
        (progress.forward.next old new distance diagonal))
      (room : after.HasRoom bound)
      : Round old new bound distance progress
          (some ⟨progress.forward.start distance diagonal,
            (progress.forward.start distance diagonal - diagonal).toNat⟩, after)
  | metBackward {forward : Reach} {diagonal : Int} {after : Progress}
      (on : OnRow distance diagonal) (moves : progress.forward.Moves old new distance forward)
      (meets : meetsBackward old.length new.length distance forward diagonal
        (progress.backward.next old.reverse new.reverse distance diagonal))
      (room : after.HasRoom bound)
      : Round old new bound distance progress
          (some ⟨old.length - progress.backward.next old.reverse new.reverse distance diagonal,
            (new.length - (progress.backward.next old.reverse new.reverse distance diagonal
              - diagonal)).toNat⟩, after)
  | missed {after : Progress}
      (forward : progress.forward.Moves old new distance after.forward)
      (backward : progress.backward.Moves old.reverse new.reverse distance after.backward)
      (apartForward : ∀ diagonal, OnRow distance diagonal
        → ¬meetsForward old.length new.length distance progress.backward diagonal
            (progress.forward.next old new distance diagonal))
      (apartBackward : ∀ diagonal, OnRow distance diagonal
        → ¬meetsBackward old.length new.length distance after.forward diagonal
            (progress.backward.next old.reverse new.reverse distance diagonal))
      (room : after.HasRoom bound)
      : Round old new bound distance progress (.none, after)

/-- One round of both searches, by the cases of their sweeps. -/
theorem Progress.HasRoom.round {bound distance : Nat} {progress : Progress}
    (room : progress.HasRoom bound) (old new : List String) (near : distance < bound)
    (wide : 1 < bound)
    : Round old new bound distance progress (searchRound old new distance progress) := by
  rw [searchRound, stepForward_eq_sweep]
  rcases room.1.sweep_cases near wide with ⟨diagonal, on, meets, met⟩ | ⟨missed, moves, apart⟩
  · rw [Prod.map, met]
    exact .metForward on meets ⟨room.1.sweep _, room.2⟩
  · rw [Prod.map, missed]
    simp only [id, stepBackward_eq_sweep]
    rcases room.2.sweep_cases near wide with
      ⟨diagonal, on, meets, met⟩ | ⟨missedBack, movesBack, apartBack⟩
    · rw [Prod.map, met]
      exact .metBackward on moves meets ⟨room.1.sweep _, room.2.sweep _⟩
    · rw [Prod.map, missedBack]
      exact .missed moves movesBack apart apartBack ⟨room.1.sweep _, room.2.sweep _⟩

/-- Both searches have come to a distance and have not met. -/
structure Searched (old new : List String) (distance : Nat) (progress : Progress) : Prop where
  forward : Frontier old.length new.length distance progress.forward
  backward : Frontier old.length new.length distance progress.backward
  apartForward : ((old.length : Int) - new.length) % 2 ≠ 0
    → Apart old.length new.length distance (distance - 1) progress.forward progress.backward
  apartBackward : ((old.length : Int) - new.length) % 2 = 0
    → Apart old.length new.length distance distance progress.backward progress.forward
  resting : distance = 0 → progress.forward.get 0 = 0 ∧ progress.backward.get 0 = 0

/-- The searches meet within the bound: the progress of both is half of their distances at
least, and on one of the outermost diagonals of the first they have to overlap.
-/
theorem Searched.distance_lt {old new : List String} {distance : Nat} {progress : Progress}
    (searched : Searched old new distance progress)
    : distance + 1 < distanceBound old.length new.length := by
  apply Nat.lt_of_not_le
  intro far
  simp only [distanceBound] at far
  -- The outermost diagonal on the side of the longer sequence is within reach of both.
  obtain ⟨diagonal, on, side⟩ : ∃ diagonal : Int, OnRow distance diagonal
      ∧ (diagonal = distance ∧ (new.length : Int) ≤ old.length
        ∨ diagonal = -distance ∧ (old.length : Int) ≤ new.length) := by
    by_cases longer : (new.length : Int) ≤ old.length
    · exact ⟨distance, by simp only [OnRow]; omega, .inl ⟨rfl, longer⟩⟩
    · exact ⟨-distance, by simp only [OnRow]; omega, .inr ⟨rfl, by omega⟩⟩
  by_cases even : ((old.length : Int) - new.length) % 2 = 0
  · have otherOn : OnRow distance (old.length - new.length - diagonal) := by
      simp only [OnRow] at on ⊢
      omega
    have short := searched.apartBackward even diagonal on otherOn
    have own := searched.backward.advanced _ _ (Int.le_refl _) (by omega) on
    have other := searched.forward.advanced _ _ (Int.le_refl _) (by omega) otherOn
    omega
  · have otherOn : OnRow (distance - 1) (old.length - new.length - diagonal) := by
      simp only [OnRow] at on ⊢
      omega
    have short := searched.apartForward even diagonal on otherOn
    have own := searched.forward.advanced _ _ (Int.le_refl _) (by omega) on
    have other := searched.backward.advanced _ _ (by omega) (by omega) otherOn
    omega

/-- The sequences have lines and share none at either end. -/
structure Unlike (old new : List String) : Prop where
  someOld : 0 < old.length
  someNew : 0 < new.length
  front : sharedFront old new = 0
  tail : sharedEnd old new = 0

/-- Lines that agree up to the first line of both sequences, from the end, are shared at the
front.
-/
theorem agreement_reverse_le (old new : List String) (x : Nat) {y : Int} (inside : 0 ≤ y)
    (allOld : x + agreement old.reverse new.reverse x y = old.length)
    (allNew : y + agreement old.reverse new.reverse x y = new.length)
    : agreement old.reverse new.reverse x y ≤ sharedFront old new := by
  have same := take_sharedFront (old.reverse.drop x) (new.reverse.drop y.toNat)
  rw [agreement, if_pos inside] at allOld allNew ⊢
  generalize sharedFront (old.reverse.drop x) (new.reverse.drop y.toNat) = count at *
  rw [List.take_of_length_le (by simp; omega), List.take_of_length_le (by simp; omega),
    List.drop_reverse, List.drop_reverse, List.reverse_inj, show old.length - x = count by omega,
    show new.length - y.toNat = count by omega] at same
  exact le_sharedFront (by omega) same

section Step

variable {old new : List String} {distance : Nat} {progress : Progress}
  (searched : Searched old new distance progress) (unlike : Unlike old new)
include searched

/-- Both searches have come to the next distance if they have moved and not met. -/
theorem Searched.step {after : Progress}
    (forward : progress.forward.Moves old new (distance + 1) after.forward)
    (backward : progress.backward.Moves old.reverse new.reverse (distance + 1) after.backward)
    (apartForward : ∀ diagonal, OnRow (distance + 1) diagonal
      → ¬meetsForward old.length new.length (distance + 1) progress.backward diagonal
          (progress.forward.next old new (distance + 1) diagonal))
    (apartBackward : ∀ diagonal, OnRow (distance + 1) diagonal
      → ¬meetsBackward old.length new.length (distance + 1) after.forward diagonal
          (progress.backward.next old.reverse new.reverse (distance + 1) diagonal))
    : Searched old new (distance + 1) after where
  forward := searched.forward.step forward
  backward := by
    have reversed : Frontier old.reverse.length new.reverse.length distance
        progress.backward := by
      simpa using searched.backward
    simpa using reversed.step backward
  apartForward := by
    intro odd diagonal on otherOn
    have apart := apartForward diagonal on
    rw [forward.next diagonal on, backward.kept _ otherOn]
    simp only [meetsForward, Bool.and_eq_true, decide_eq_true_eq] at apart
    simp only [OnRow] at on otherOn
    omega
  apartBackward := by
    intro even diagonal on otherOn
    have apart := apartBackward diagonal on
    rw [backward.next diagonal on]
    simp only [meetsBackward, Bool.and_eq_true, decide_eq_true_eq] at apart
    simp only [OnRow] at on otherOn
    omega
  resting := nofun

include unlike

/-- The searches meet inside of the comparison if the one from the start meets the other. -/
theorem Searched.forward_inside {diagonal : Int} (on : OnRow (distance + 1) diagonal)
    {reached : Nat} (meets : meetsForward old.length new.length (distance + 1) progress.backward
      diagonal reached)
    : Point.Inside
        ⟨progress.forward.start (distance + 1) diagonal,
          (progress.forward.start (distance + 1) diagonal - diagonal).toNat⟩ old new := by
  simp only [meetsForward, Bool.and_eq_true, decide_eq_true_eq] at meets
  obtain ⟨⟨odd, near⟩, _⟩ := meets
  have otherOn : OnRow distance (old.length - new.length - diagonal) := by
    simp only [OnRow] at on ⊢
    omega
  have otherAdvanced (cell : Int) (row : OnRow (distance - 1) cell)
      : cell ≤ progress.backward.get cell :=
    (searched.backward.advanced _ cell (by omega) (by omega) row).1
  have inside := searched.forward.start_inside otherAdvanced (searched.apartForward odd)
    (Int.le_refl _) on otherOn
  have before := searched.forward.start_before_end otherAdvanced (searched.apartForward odd)
    (Int.le_refl _) (fun first => (searched.resting first).1) unlike.someOld unlike.someNew on
    otherOn
  simp only [Point.Inside]
  omega

/-- The searches meet inside of the comparison if the one from the end meets the other. -/
theorem Searched.backward_inside {forward : Reach} {diagonal : Int}
    (on : OnRow (distance + 1) diagonal) {reached : Nat}
    (meets : meetsBackward old.length new.length (distance + 1) forward diagonal reached)
    (next : reached = progress.backward.next old.reverse new.reverse (distance + 1) diagonal)
    : Point.Inside
        ⟨old.length - reached, (new.length - (reached - diagonal)).toNat⟩ old new := by
  simp only [meetsBackward, Bool.and_eq_true, decide_eq_true_eq] at meets
  obtain ⟨⟨even, near⟩, _⟩ := meets
  have otherOn : OnRow (distance + 1) (old.length - new.length - diagonal) := by
    simp only [OnRow] at on ⊢
    omega
  have otherAdvanced (cell : Int) (row : OnRow ((distance : Int) + 1 - 1) cell)
      : cell ≤ progress.forward.get cell :=
    (searched.forward.advanced _ cell (by omega) (by omega) row).1
  have apart : Apart old.length new.length distance ((distance : Int) + 1 - 1)
      progress.backward progress.forward := by
    rw [Int.add_sub_cancel]
    exact searched.apartBackward even
  have inside := searched.backward.start_inside otherAdvanced apart (by omega) on otherOn
  have before := searched.backward.start_before_end otherAdvanced apart (by omega)
    (fun first => (searched.resting first).2) unlike.someOld unlike.someNew on otherOn
  subst next
  simp only [Reach.next, Point.Inside]
  generalize progress.backward.start (distance + 1) diagonal = x at *
  have inOld := agreement_le_old old.reverse new.reverse x (x - diagonal)
  have inNew := agreement_le_new old.reverse new.reverse x (x - diagonal)
  have unshared := unlike.front
  have atFront := agreement_reverse_le old new x (Int.sub_nonneg_of_le inside.2.1)
  simp only [List.length_reverse] at inOld inNew
  omega

end Step

/-- A search that starts where no lines are shared stays there at first. -/
theorem Reach.next_resting {old new : List String} {reach : Reach} (start : reach.get 1 = 0)
    (unshared : sharedFront old new = 0)
    : reach.next old new 0 0 = 0 := by
  have first : reach.start 0 0 = 0 := by
    simpa [Reach.start] using start
  rw [Reach.next, first]
  simpa [agreement] using unshared

/-- The first round of two searches has no meeting. -/
theorem Round.searched {old new : List String} {bound : Nat} {progress : Progress}
    {result : Option Point × Progress} (round : Round old new bound 0 progress result)
    (unlike : Unlike old new)
    (start : progress.forward.get 1 = 0 ∧ progress.backward.get 1 = 0)
    : ∃ after, result = (.none, after) ∧ after.HasRoom bound ∧ Searched old new 0 after := by
  cases round with
  | metForward on meets room => simp [meetsForward] at meets
  | @metBackward forward diagonal after on moves meets room =>
      simp only [meetsBackward, Bool.and_eq_true, decide_eq_true_eq] at meets
      obtain ⟨⟨_, near⟩, meets⟩ := meets
      obtain ⟨rfl, same⟩ : diagonal = 0 ∧ (old.length : Int) - new.length - diagonal = 0 := by
        simp only [OnRow] at on
        omega
      rw [same, moves.next 0 (by simp [OnRow]), Reach.next_resting start.1 unlike.front,
        Reach.next_resting start.2 unlike.tail] at meets
      exact absurd meets (Nat.not_le.mpr unlike.someOld)
  | @missed after forward backward _ _ room =>
      have resting : after.forward.get 0 = 0 := by
        rw [forward.next 0 (by simp [OnRow]), Reach.next_resting start.1 unlike.front]
      have restingBack : after.backward.get 0 = 0 := by
        rw [backward.next 0 (by simp [OnRow]), Reach.next_resting start.2 unlike.tail]
      refine ⟨after, rfl, room, .at_start _ _ resting, .at_start _ _ restingBack, ?_, ?_,
        fun _ => ⟨resting, restingBack⟩⟩
      · intro _ diagonal on otherOn
        simp only [OnRow] at otherOn
        omega
      · intro _ diagonal on otherOn
        obtain ⟨rfl, same⟩ : diagonal = 0 ∧ (old.length : Int) - new.length - diagonal = 0 := by
          simp only [OnRow] at on otherOn
          omega
        rw [same, resting, restingBack]
        exact unlike.someOld

/-- Two searches that have not met yet meet inside of the comparison before the last distance. -/
theorem searchFrom_inside {old new : List String} {bound distance tries : Nat}
    {progress : Progress} (unlike : Unlike old new) (room : progress.HasRoom bound)
    (fits : distanceBound old.length new.length ≤ bound)
    (searched : Searched old new distance progress)
    (enough : distanceBound old.length new.length ≤ distance + 1 + tries)
    : ∃ point after,
        searchFrom old new old.reverse new.reverse (distance + 1) tries progress
          = (some point, after)
        ∧ point.Inside old new ∧ after.HasRoom bound := by
  induction tries generalizing distance progress with
  | zero =>
      have := searched.distance_lt
      omega
  | succ tries ih =>
      have near : distance + 1 < bound := Nat.lt_of_lt_of_le searched.distance_lt fits
      have round := room.round old new near (by omega)
      rw [searchFrom_succ]
      generalize searchRound old new (distance + 1) progress = result at round
      cases round with
      | metForward on meets room =>
          exact ⟨_, _, rfl, searched.forward_inside unlike on meets, room⟩
      | metBackward on _ meets room =>
          exact ⟨_, _, rfl, searched.backward_inside unlike on meets rfl, room⟩
      | missed forward backward apartForward apartBackward room =>
          exact ih room (searched.step forward backward apartForward apartBackward) (by omega)

/-- Two searches between sequences that share no line at either end meet inside of the
comparison, whatever their cells hold before.
-/
theorem meeting_inside {old new : List String} {bound : Nat} {progress : Progress}
    (unlike : Unlike old new) (room : progress.HasRoom bound)
    (fits : distanceBound old.length new.length ≤ bound)
    : ∃ point after, meeting old new progress = (some point, after)
        ∧ point.Inside old new ∧ after.HasRoom bound := by
  have wide : 1 < bound := by
    have := unlike.someOld
    simp only [distanceBound] at fits
    omega
  have ready : Progress.HasRoom ⟨progress.forward.set 1 0, progress.backward.set 1 0⟩ bound :=
    ⟨room.1.set 1 0, room.2.set 1 0⟩
  have round := ready.round old new (Nat.lt_trans Nat.zero_lt_one wide) wide
  obtain ⟨after, first, afterRoom, searched⟩ := round.searched unlike
    ⟨by rw [room.1.get_set 1 0 (by omega), if_pos rfl],
      by rw [room.2.get_set 1 0 (by omega), if_pos rfl]⟩
  rw [meeting, distanceBound, searchFrom_succ, first]
  exact searchFrom_inside unlike afterRoom fits searched (by simp only [distanceBound]; omega)

end RecordSmith.Drift
