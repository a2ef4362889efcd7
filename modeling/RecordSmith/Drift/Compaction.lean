import RecordSmith.Drift.Comparison

/-! Runs of changes brought together. A changed run moves past its neighbours as far as it
goes: it changes places with runs of the other change, takes up runs of its own, and added
lines slide along kept lines that equal them.
-/

namespace RecordSmith.Drift

/-- The number of runs and of their lines. -/
def weight : List Run → Nat
  | [] => 0
  | run :: rest => run.lines.length + 1 + weight rest

/-- A run with the runs before it, nearest first, and the runs after it. -/
structure Focus where
  earlier : List Run
  run : Run
  later : List Run

/-- Puts kept lines in front of some runs. -/
def keepInFront (lines : List String) : List Run → List Run
  | ⟨.keep, more⟩ :: rest => ⟨.keep, lines ++ more⟩ :: rest
  | runs => ⟨.keep, lines⟩ :: runs

/-- Moves a changed run upward. -/
def moveUp (earlier : List Run) (run : Run) (later : List Run) : Focus :=
  match earlier with
  | [] => ⟨[], run, later⟩
  | previous :: rest =>
      match run.change, previous.change with
      | .add, .keep =>
          let shared := sharedEnd previous.lines run.lines
          if 0 < shared then
            let kept := previous.lines.take (previous.lines.length - shared)
            let slid := previous.lines.drop (previous.lines.length - shared)
            let moved : Run := ⟨.add, slid ++ run.lines.take (run.lines.length - shared)⟩
            if kept.isEmpty then moveUp rest moved (keepInFront slid later)
            else moveUp (⟨.keep, kept⟩ :: rest) moved (keepInFront slid later)
          else if previous.lines.isEmpty then moveUp rest run later
          else ⟨previous :: rest, run, later⟩
      | .drop, .keep =>
          if previous.lines.isEmpty then moveUp rest run later
          else ⟨previous :: rest, run, later⟩
      | .add, .drop => moveUp rest run (previous :: later)
      | .drop, .add => moveUp rest run (previous :: later)
      | .add, .add => moveUp rest ⟨.add, previous.lines ++ run.lines⟩ later
      | .drop, .drop => moveUp rest ⟨.drop, previous.lines ++ run.lines⟩ later
      | .keep, _ => ⟨previous :: rest, run, later⟩
termination_by weight earlier
decreasing_by
  all_goals
    have := sharedEnd_le_left previous.lines run.lines
    simp_all [weight]
    try omega

/-- Puts kept lines behind some runs, of which the last stands first. -/
def keepBehind (lines : List String) : List Run → List Run
  | ⟨.keep, more⟩ :: rest => ⟨.keep, more ++ lines⟩ :: rest
  | runs => ⟨.keep, lines⟩ :: runs

/-- Moves a changed run downward. -/
def moveDown (earlier : List Run) (run : Run) (later : List Run) : Focus :=
  match later with
  | [] => ⟨earlier, run, []⟩
  | next :: rest =>
      match run.change, next.change with
      | .add, .keep =>
          let shared := sharedFront next.lines run.lines
          if 0 < shared then
            let slid := next.lines.take shared
            let kept := next.lines.drop shared
            let moved : Run := ⟨.add, run.lines.drop shared ++ slid⟩
            if kept.isEmpty then moveDown (keepBehind slid earlier) moved rest
            else moveDown (keepBehind slid earlier) moved (⟨.keep, kept⟩ :: rest)
          else if next.lines.isEmpty then moveDown earlier run rest
          else ⟨earlier, run, next :: rest⟩
      | .drop, .keep =>
          if next.lines.isEmpty then moveDown earlier run rest
          else ⟨earlier, run, next :: rest⟩
      | .add, .drop => moveDown (next :: earlier) run rest
      | .drop, .add => moveDown (next :: earlier) run rest
      | .add, .add => moveDown earlier ⟨.add, run.lines ++ next.lines⟩ rest
      | .drop, .drop => moveDown earlier ⟨.drop, run.lines ++ next.lines⟩ rest
      | .keep, _ => ⟨earlier, run, next :: rest⟩
termination_by weight later
decreasing_by
  all_goals
    have := sharedFront_le_left next.lines run.lines
    simp_all [weight]
    try omega

/-- Moves each run of one change upward and then downward, from the first to the last, at
most the given number of times. The runs that are done stand last first.
-/
def compactFrom (change : Change) : Nat → List Run → List Run → List Run
  | 0, done, runs => done.reverse ++ runs
  | _, done, [] => done.reverse
  | steps + 1, done, run :: rest =>
      if run.change = change then
        let up := moveUp done run rest
        let down := moveDown up.earlier up.run up.later
        compactFrom change steps (down.run :: down.earlier) down.later
      else compactFrom change steps (run :: done) rest

/-- A number of steps that no compaction of so many runs exceeds: runs are met again only
after two added runs became one.
-/
def stepBound (runs : Nat) : Nat :=
  (2 * runs + 1) * (2 * runs + 1)

/-- Brings together the dropped runs and then the added runs. -/
def compact (runs : List Run) : List Run :=
  let dropped := compactFrom .drop (stepBound runs.length) [] runs
  compactFrom .add (stepBound dropped.length) [] dropped

end RecordSmith.Drift
