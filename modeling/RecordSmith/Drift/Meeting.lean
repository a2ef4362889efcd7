import RecordSmith.Drift.Script

/-! The search for a point that splits a comparison in two. One search runs from the start of
both sequences and one from their end, each along diagonals and as far as the lines agree, until
the two meet.
-/

namespace RecordSmith.Drift

/-- How far a search came on each diagonal. Diagonals have both signs. -/
structure Reach where
  cells : Array Nat
  offset : Nat

/-- No progress on any of the diagonals below the bound. -/
def Reach.none (bound : Nat) : Reach :=
  ⟨Array.replicate (2 * bound) 0, bound⟩

/-- The progress on a diagonal. -/
def Reach.get (reach : Reach) (diagonal : Int) : Nat :=
  reach.cells.getD (diagonal + reach.offset).toNat 0

/-- Records the progress on a diagonal. -/
def Reach.set (reach : Reach) (diagonal : Int) (value : Nat) : Reach :=
  { reach with cells := reach.cells.setIfInBounds (diagonal + reach.offset).toNat value }

/-- Where the next step on a diagonal starts, from the better one of its two neighbours. -/
def Reach.start (reach : Reach) (distance : Nat) (diagonal : Int) : Nat :=
  if diagonal = -distance
      || (diagonal ≠ distance && reach.get (diagonal - 1) < reach.get (diagonal + 1)) then
    reach.get (diagonal + 1)
  else reach.get (diagonal - 1) + 1

/-- The progress of both searches. It is kept from one comparison to the next. -/
structure Progress where
  forward : Reach
  backward : Reach

/-- A bound on the distance at which two searches meet. -/
def distanceBound (old new : Nat) : Nat :=
  (old + new + 1) / 2 + 1

/-- No progress of either search between sequences of the given lengths. -/
def Progress.none (old new : Nat) : Progress :=
  ⟨.none (distanceBound old new), .none (distanceBound old new)⟩

/-- The diagonals at a distance, from the highest to the lowest. -/
def diagonals (distance : Nat) : List Int :=
  (List.range (distance + 1)).map fun index : Nat => (distance : Int) - 2 * index

/-- The number of lines that agree from a point on, none outside of the sequences. -/
def agreement (old new : List String) (x : Nat) (y : Int) : Nat :=
  if 0 ≤ y then sharedFront (old.drop x) (new.drop y.toNat) else 0

/-- A point of a comparison: how many lines of each sequence lie before it. -/
structure Point where
  old : Nat
  new : Nat
deriving Repr, DecidableEq

/-- Takes the search from the start one step further on each of the diagonals. -/
def stepForward (old new : List String) (distance : Nat)
    : List Int → Progress → Option Point × Progress
  | [], progress => (.none, progress)
  | diagonal :: rest, progress =>
      let delta : Int := old.length - new.length
      let x := progress.forward.start distance diagonal
      let y : Int := x - diagonal
      let reached := x + agreement old new x y
      let next := { progress with forward := progress.forward.set diagonal reached }
      if delta % 2 ≠ 0 && (diagonal - delta).natAbs + 1 ≤ distance
          && old.length ≤ reached + next.backward.get (delta - diagonal) then
        (some ⟨x, y.toNat⟩, next)
      else stepForward old new distance rest next

/-- Takes the search from the end one step further on each of the diagonals. Both sequences
are given with their last line first as well.
-/
def stepBackward (old new oldReversed newReversed : List String) (distance : Nat)
    : List Int → Progress → Option Point × Progress
  | [], progress => (.none, progress)
  | diagonal :: rest, progress =>
      let delta : Int := old.length - new.length
      let x := progress.backward.start distance diagonal
      let y : Int := x - diagonal
      let shared := agreement oldReversed newReversed x y
      let reached := x + shared
      let next := { progress with backward := progress.backward.set diagonal reached }
      if delta % 2 = 0 && (diagonal - delta).natAbs ≤ distance
          && old.length ≤ reached + next.forward.get (delta - diagonal) then
        (some ⟨old.length - reached, ((new.length : Int) - (y + shared)).toNat⟩, next)
      else stepBackward old new oldReversed newReversed distance rest next

/-- Runs both searches at growing distances until they meet. -/
def searchFrom (old new oldReversed newReversed : List String) (distance : Nat)
    : Nat → Progress → Option Point × Progress
  | 0, progress => (.none, progress)
  | tries + 1, progress =>
      match stepForward old new distance (diagonals distance) progress with
      | (some point, progress) => (some point, progress)
      | (.none, progress) =>
          match stepBackward old new oldReversed newReversed distance (diagonals distance)
            progress with
          | (some point, progress) => (some point, progress)
          | (.none, progress) =>
              searchFrom old new oldReversed newReversed (distance + 1) tries progress

/-- The point where the two searches meet. -/
def meeting (old new : List String) (progress : Progress) : Option Point × Progress :=
  searchFrom old new old.reverse new.reverse 0 (distanceBound old.length new.length)
    ⟨progress.forward.set 1 0, progress.backward.set 1 0⟩

end RecordSmith.Drift
