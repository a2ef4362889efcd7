/-! Edit scripts between two sequences of lines. -/

namespace RecordSmith.Drift

/-- What happens to a line. -/
inductive Change where
  | keep
  | drop
  | add
deriving Repr, DecidableEq

/-- Neighbouring lines with the same change. -/
structure Run where
  change : Change
  lines : List String
deriving Repr, DecidableEq

/-- One line of an edit script. -/
structure Edit where
  change : Change
  line : String
deriving Repr, DecidableEq

/-- The lines of the first sequence in a run. -/
def Run.before (run : Run) : List String :=
  if run.change = .add then [] else run.lines

/-- The lines of the second sequence in a run. -/
def Run.after (run : Run) : List String :=
  if run.change = .drop then [] else run.lines

/-- The first of the two sequences of a script. -/
def before (script : List Edit) : List String :=
  (script.filter (·.change ≠ .add)).map Edit.line

/-- The second of the two sequences of a script. -/
def after (script : List Edit) : List String :=
  (script.filter (·.change ≠ .drop)).map Edit.line

/-- Lines as edits with the same change. -/
def edits (change : Change) (lines : List String) : List Edit :=
  lines.map fun line => ⟨change, line⟩

/-- The script of some runs. Between two kept runs all dropped lines come before all added
ones; those met since the last kept run are given.
-/
def settle (dropped added : List String) : List Run → List Edit
  | [] => edits .drop dropped ++ edits .add added
  | ⟨.keep, lines⟩ :: rest =>
      edits .drop dropped ++ edits .add added ++ edits .keep lines ++ settle [] [] rest
  | ⟨.drop, lines⟩ :: rest => settle (dropped ++ lines) added rest
  | ⟨.add, lines⟩ :: rest => settle dropped (added ++ lines) rest

/-- The number of lines at the front that two sequences share. -/
def sharedFront : List String → List String → Nat
  | a :: as, b :: bs => if a = b then sharedFront as bs + 1 else 0
  | _, _ => 0

/-- The number of lines at the end that two sequences share. -/
def sharedEnd (old new : List String) : Nat :=
  sharedFront old.reverse new.reverse

/-- Sequences share no more lines at the front than the first has. -/
theorem sharedFront_le_left (old new : List String)
    : sharedFront old new ≤ old.length := by
  induction old generalizing new with
  | nil => simp [sharedFront]
  | cons a as ih =>
      cases new with
      | nil => simp [sharedFront]
      | cons b bs =>
          unfold sharedFront
          split
          · have := ih bs
            simp
            omega
          · simp

/-- Sequences share no more lines at the end than the first has. -/
theorem sharedEnd_le_left (old new : List String)
    : sharedEnd old new ≤ old.length := by
  simpa [sharedEnd] using sharedFront_le_left old.reverse new.reverse

end RecordSmith.Drift
