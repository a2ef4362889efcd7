import RecordSmith.Proofs.Drift.Frontier

/-! Both searches step over the diagonals of a distance in the same way. A sweep writes the cells
of one row and reads those of the row before it, so that the order of its steps does not matter.
-/

namespace RecordSmith.Drift

/-- A search steps on each of the diagonals, up to the first where it meets the other one. -/
def Reach.sweep (old new : List String) (distance : Nat) (meets : Int → Nat → Bool)
    (found : Int → Nat → Nat → Point)
    : List Int → Reach → Option Point × Reach
  | [], reach => (.none, reach)
  | diagonal :: rest, reach =>
      let reached := reach.next old new distance diagonal
      let moved := reach.set diagonal reached
      if meets diagonal reached then
        (some (found diagonal (reach.start distance diagonal) reached), moved)
      else moved.sweep old new distance meets found rest

/-- The search from the start meets the other one, which is one distance behind. -/
def meetsForward (old new distance : Nat) (backward : Reach) (diagonal : Int) (reached : Nat)
    : Bool :=
  ((old : Int) - new) % 2 ≠ 0 && (diagonal - (old - new)).natAbs + 1 ≤ distance
    && old ≤ reached + backward.get (old - new - diagonal)

/-- The search from the end meets the other one, which has come to the same distance. -/
def meetsBackward (old new distance : Nat) (forward : Reach) (diagonal : Int) (reached : Nat)
    : Bool :=
  ((old : Int) - new) % 2 = 0 && (diagonal - (old - new)).natAbs ≤ distance
    && old ≤ reached + forward.get (old - new - diagonal)

theorem stepForward_eq_sweep (old new : List String) (distance : Nat) (row : List Int)
    (progress : Progress)
    : stepForward old new distance row progress
      = (progress.forward.sweep old new distance
            (meetsForward old.length new.length distance progress.backward)
            (fun diagonal x _ => ⟨x, (x - diagonal).toNat⟩) row).map id
          fun moved => ⟨moved, progress.backward⟩ := by
  induction row generalizing progress with
  | nil => rfl
  | cons diagonal rest ih =>
      unfold stepForward Reach.sweep
      by_cases meets : meetsForward old.length new.length distance progress.backward diagonal
          (progress.forward.next old new distance diagonal)
      · rw [if_pos meets]
        exact if_pos meets
      · rw [if_neg meets]
        exact (if_neg meets).trans (ih _)

/-- The search from the end sweeps over the diagonals of the reversed sequences. -/
theorem stepBackward_eq_sweep (old new : List String) (distance : Nat) (row : List Int)
    (progress : Progress)
    : stepBackward old new old.reverse new.reverse distance row progress
      = (progress.backward.sweep old.reverse new.reverse distance
            (meetsBackward old.length new.length distance progress.forward)
            (fun diagonal _ reached =>
              ⟨old.length - reached, (new.length - (reached - diagonal)).toNat⟩) row).map id
          fun moved => ⟨progress.forward, moved⟩ := by
  induction row generalizing progress with
  | nil => rfl
  | cons diagonal rest ih =>
      unfold stepBackward Reach.sweep
      by_cases meets : meetsBackward old.length new.length distance progress.forward diagonal
          (progress.backward.next old.reverse new.reverse distance diagonal)
      · rw [if_pos meets]
        refine (if_pos meets).trans ?_
        simp only [Prod.map, id, Reach.next, Prod.mk.injEq, Option.some.injEq, Point.mk.injEq,
          and_true, true_and]
        omega
      · rw [if_neg meets]
        exact (if_neg meets).trans (ih _)

section Sweep

variable {old new : List String} {distance bound : Nat} {meets : Int → Nat → Bool}
  {found : Int → Nat → Nat → Point} {reach : Reach}
  (room : reach.HasRoom bound) (near : distance < bound) (wide : 1 < bound)
include room

theorem Reach.HasRoom.sweep (row : List Int)
    : (reach.sweep old new distance meets found row).2.HasRoom bound := by
  induction row generalizing reach with
  | nil => exact room
  | cons diagonal rest ih =>
      simp only [Reach.sweep]
      split
      · exact room.set _ _
      · exact ih (room.set _ _)

include near wide

/-- What is recorded on a diagonal does not change where a step on the same row starts. -/
theorem Reach.HasRoom.start_set {diagonal other : Int} (value : Nat)
    (on : OnRow distance diagonal) (otherOn : OnRow distance other)
    : (reach.set diagonal value).start distance other = reach.start distance other := by
  refine Reach.start_congr near wide ?_ otherOn
  intro cell odd small
  rw [room.get_set _ _ small, if_neg]
  rintro rfl
  exact odd on.2.2

theorem Reach.HasRoom.next_set {diagonal other : Int} (value : Nat)
    (on : OnRow distance diagonal) (otherOn : OnRow distance other)
    : (reach.set diagonal value).next old new distance other
      = reach.next old new distance other := by
  simp only [Reach.next, room.start_set near wide value on otherOn]

/-- A sweep that ends in a meeting ends on a diagonal where the next step meets the other
search.
-/
theorem Reach.HasRoom.sweep_eq_some {row : List Int} {point : Point}
    (onRow : ∀ diagonal ∈ row, OnRow distance diagonal)
    (met : (reach.sweep old new distance meets found row).1 = some point)
    : ∃ diagonal, OnRow distance diagonal
        ∧ meets diagonal (reach.next old new distance diagonal)
        ∧ point = found diagonal (reach.start distance diagonal)
            (reach.next old new distance diagonal) := by
  induction row generalizing reach with
  | nil => cases met
  | cons diagonal rest ih =>
      obtain ⟨on, restOn⟩ := List.forall_mem_cons.mp onRow
      simp only [Reach.sweep] at met
      split at met
      · next meets =>
          exact ⟨diagonal, on, meets, (Option.some.inj met).symm⟩
      · obtain ⟨later, laterOn, meets, place⟩ := ih (room.set _ _) restOn met
        rw [room.next_set near wide _ on laterOn] at meets place
        rw [room.start_set near wide _ on laterOn] at place
        exact ⟨later, laterOn, meets, place⟩

/-- A sweep without a meeting records the next step on each of its diagonals and nothing
else.
-/
theorem Reach.HasRoom.get_sweep {row : List Int}
    (onRow : ∀ diagonal ∈ row, OnRow distance diagonal)
    (missed : (reach.sweep old new distance meets found row).1 = .none)
    {cell : Int} (small : cell.natAbs < bound)
    : (reach.sweep old new distance meets found row).2.get cell
      = if cell ∈ row then reach.next old new distance cell else reach.get cell := by
  induction row generalizing reach with
  | nil => rfl
  | cons diagonal rest ih =>
      obtain ⟨on, restOn⟩ := List.forall_mem_cons.mp onRow
      simp only [Reach.sweep] at missed ⊢
      split at missed
      · cases missed
      · next misses =>
          rw [if_neg misses, ih (room.set _ _) restOn missed, room.get_set _ _ small]
          by_cases later : cell ∈ rest
          · rw [if_pos later, if_pos (List.mem_cons_of_mem _ later)]
            exact room.next_set near wide _ on (restOn cell later)
          · by_cases here : cell = diagonal
            · subst here
              simp [later]
            · simp [here, later]

/-- A sweep without a meeting has met the other search on none of its diagonals. -/
theorem Reach.HasRoom.sweep_eq_none {row : List Int}
    (onRow : ∀ diagonal ∈ row, OnRow distance diagonal)
    (missed : (reach.sweep old new distance meets found row).1 = .none)
    : ∀ diagonal ∈ row, ¬meets diagonal (reach.next old new distance diagonal) := by
  induction row generalizing reach with
  | nil => exact fun _ nowhere => nomatch nowhere
  | cons diagonal rest ih =>
      obtain ⟨on, restOn⟩ := List.forall_mem_cons.mp onRow
      simp only [Reach.sweep] at missed
      split at missed
      · cases missed
      · next misses =>
          refine List.forall_mem_cons.mpr ⟨misses, ?_⟩
          intro later among
          have apart := ih (room.set _ _) restOn missed later among
          rwa [room.next_set near wide _ on (restOn later among)] at apart

/-- A sweep over a row ends in a meeting or moves the search without one. -/
theorem Reach.HasRoom.sweep_cases
    : (∃ diagonal, OnRow distance diagonal
        ∧ meets diagonal (reach.next old new distance diagonal)
        ∧ (reach.sweep old new distance meets found (diagonals distance)).1
          = some (found diagonal (reach.start distance diagonal)
              (reach.next old new distance diagonal)))
      ∨ ((reach.sweep old new distance meets found (diagonals distance)).1 = .none
        ∧ reach.Moves old new distance
            (reach.sweep old new distance meets found (diagonals distance)).2
        ∧ ∀ diagonal, OnRow distance diagonal
            → ¬meets diagonal (reach.next old new distance diagonal)) := by
  have onRow (diagonal : Int) (among : diagonal ∈ diagonals distance) :=
    mem_diagonals.mp among
  cases result : (reach.sweep old new distance meets found (diagonals distance)).1 with
  | some point =>
      obtain ⟨diagonal, on, meets, place⟩ := room.sweep_eq_some near wide onRow result
      exact .inl ⟨diagonal, on, meets, congrArg some place⟩
  | none =>
      refine .inr ⟨rfl, ⟨?_, ?_⟩, ?_⟩
      · intro diagonal on
        have small : diagonal.natAbs < bound := by
          simp only [OnRow] at on
          omega
        rw [room.get_sweep near wide onRow result small, if_pos (mem_diagonals.mpr on)]
      · intro diagonal on
        have small : diagonal.natAbs < bound := by
          simp only [OnRow] at on
          omega
        have other : diagonal ∉ diagonals distance := by
          rw [mem_diagonals]
          simp only [OnRow] at on ⊢
          omega
        rw [room.get_sweep near wide onRow result small, if_neg other]
      · intro diagonal on
        exact room.sweep_eq_none near wide onRow result diagonal (mem_diagonals.mpr on)

end Sweep

end RecordSmith.Drift
