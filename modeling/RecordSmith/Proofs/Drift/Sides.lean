import RecordSmith.Drift.Compaction
import RecordSmith.Proofs.Drift.SharedLines

/-! The two sequences of a list of runs, and what leaves them as they are: changes that trade
places, runs that join, and added lines that slide along kept ones. A run that moves up or down
does nothing else.
-/

namespace RecordSmith.Drift

/-- Both lists of runs lead from the same first to the same second sequence. -/
structure SameSides (left right : List Run) : Prop where
  before : left.flatMap Run.before = right.flatMap Run.before
  after : left.flatMap Run.after = right.flatMap Run.after

namespace SameSides

theorem refl (runs : List Run) : SameSides runs runs :=
  ⟨rfl, rfl⟩

theorem symm {left right : List Run} (same : SameSides left right) : SameSides right left :=
  ⟨same.before.symm, same.after.symm⟩

theorem trans {left middle right : List Run} (first : SameSides left middle)
    (second : SameSides middle right)
    : SameSides left right :=
  ⟨first.before.trans second.before, first.after.trans second.after⟩

theorem append {left right more others : List Run} (front : SameSides left right)
    (back : SameSides more others)
    : SameSides (left ++ more) (right ++ others) := by
  constructor
  · rw [List.flatMap_append, List.flatMap_append, front.before, back.before]
  · rw [List.flatMap_append, List.flatMap_append, front.after, back.after]

/-- Runs between others may be exchanged. -/
theorem between {left right : List Run} (front : List Run) (same : SameSides left right)
    (back : List Run)
    : SameSides (front ++ left ++ back) (front ++ right ++ back) :=
  ((refl front).append same).append (refl back)

section

variable {first second : Run}

/-- A run without lines is on neither side of the run after it. -/
theorem drop_first (nothing : first.lines.isEmpty) : SameSides [second] [first, second] := by
  have none : first.lines = [] := List.isEmpty_iff.mp nothing
  constructor <;> simp [Run.before, Run.after, none]

/-- A run without lines is on neither side of the run before it. -/
theorem drop_second (nothing : second.lines.isEmpty) : SameSides [first] [first, second] := by
  have none : second.lines = [] := List.isEmpty_iff.mp nothing
  constructor <;> simp [Run.before, Run.after, none]

/-- Neighbouring runs of one change are one run. -/
theorem join (first second : Run) {change : Change} (firstKind : first.change = change)
    (secondKind : second.change = change)
    : SameSides [⟨change, first.lines ++ second.lines⟩] [first, second] := by
  subst firstKind
  constructor <;> cases kind : first.change <;> simp_all [Run.before, Run.after]

/-- Dropped and added lines are on different sides and can trade places. -/
theorem swap (firstKind : first.change = .drop) (secondKind : second.change = .add)
    : SameSides [first, second] [second, first] := by
  constructor <;> simp [Run.before, Run.after, firstKind, secondKind]

/-- Added lines move up past the kept lines that they end with. -/
theorem slide_up {kept shared added : List String} (firstKind : first.change = .keep)
    (secondKind : second.change = .add) (firstLines : first.lines = kept ++ shared)
    (secondLines : second.lines = added ++ shared)
    : SameSides [⟨.keep, kept⟩, ⟨.add, shared ++ added⟩, ⟨.keep, shared⟩] [first, second] := by
  constructor <;> simp [Run.before, Run.after, firstKind, secondKind, firstLines, secondLines]

/-- Added lines move down past the kept lines that they begin with. -/
theorem slide_down {kept shared added : List String} (firstKind : first.change = .add)
    (secondKind : second.change = .keep) (firstLines : first.lines = shared ++ added)
    (secondLines : second.lines = shared ++ kept)
    : SameSides [⟨.keep, shared⟩, ⟨.add, added ++ shared⟩, ⟨.keep, kept⟩] [first, second] := by
  constructor <;> simp [Run.before, Run.after, firstKind, secondKind, firstLines, secondLines]

end

end SameSides

-----------------------------------------------------------------------------------------
-- Moves keep both sides
-----------------------------------------------------------------------------------------

/-- Kept lines put in front are a kept run in front. -/
theorem keepInFront_sameSides (lines : List String) (runs : List Run)
    : SameSides (keepInFront lines runs) (⟨.keep, lines⟩ :: runs) := by
  unfold keepInFront
  split
  · next more rest =>
      exact (SameSides.join ⟨.keep, lines⟩ ⟨.keep, more⟩ rfl rfl).append (.refl rest)
  · exact .refl _

theorem keepBehind_sameSides (lines : List String) (runs : List Run)
    : SameSides (keepBehind lines runs).reverse (runs.reverse ++ [⟨.keep, lines⟩]) := by
  unfold keepBehind
  split
  · next more rest =>
      have joined := SameSides.join ⟨.keep, more⟩ ⟨.keep, lines⟩ rfl rfl
      simpa using (SameSides.refl rest.reverse).append joined
  · rw [List.reverse_cons]
    exact .refl _

/-- The runs of a focus in order. -/
def Focus.runs (focus : Focus) : List Run :=
  focus.earlier.reverse ++ focus.run :: focus.later

/-- A step upward keeps the sides when the moved runs have the sides of the run and its
neighbour above.
-/
theorem SameSides.step_up {result rest later : List Run} {previous run : Run}
    (moved : List Run) (same : SameSides moved [previous, run])
    (further : SameSides result (rest.reverse ++ (moved ++ later)))
    : SameSides result ((previous :: rest).reverse ++ run :: later) := by
  simpa using further.trans (by simpa using same.between rest.reverse later)

/-- A step downward keeps the sides when the moved runs have the sides of the run and its
neighbour below.
-/
theorem SameSides.step_down {result earlier rest : List Run} {run next : Run}
    (moved : List Run) (same : SameSides moved [run, next])
    (further : SameSides result (earlier.reverse ++ (moved ++ rest)))
    : SameSides result (earlier.reverse ++ run :: next :: rest) := by
  simpa using further.trans (by simpa using same.between earlier.reverse rest)

/-- Moving a run upward keeps both sides, by induction over its way. -/
theorem moveUp_sameSides (earlier : List Run) (run : Run) (later : List Run)
    : SameSides (moveUp earlier run later).runs (earlier.reverse ++ run :: later) := by
  fun_induction moveUp earlier run later with
  | case1 run later => exact .refl _
  | case2 run later previous rest above kind shared _ kept slid moved nothing ih =>
      have slides : SameSides [⟨.keep, kept⟩, moved, ⟨.keep, slid⟩] [previous, run] :=
        .slide_up above kind (List.take_append_drop _ _).symm
          (take_append_sharedEnd previous.lines run.lines).symm
      have empties : SameSides [moved, ⟨.keep, slid⟩] [⟨.keep, kept⟩, moved, ⟨.keep, slid⟩] :=
        (SameSides.drop_first nothing).append (.refl _)
      refine .step_up [moved, ⟨.keep, slid⟩] (empties.trans slides) (ih.trans ?_)
      exact (SameSides.refl rest.reverse).append
        ((SameSides.refl [moved]).append (keepInFront_sameSides slid later))
  | case3 run later previous rest above kind shared _ kept slid moved something ih =>
      have slides : SameSides [⟨.keep, kept⟩, moved, ⟨.keep, slid⟩] [previous, run] :=
        .slide_up above kind (List.take_append_drop _ _).symm
          (take_append_sharedEnd previous.lines run.lines).symm
      refine .step_up [⟨.keep, kept⟩, moved, ⟨.keep, slid⟩] slides (ih.trans ?_)
      rw [List.reverse_cons, List.append_assoc]
      exact (SameSides.refl rest.reverse).append
        ((SameSides.refl [⟨.keep, kept⟩, moved]).append (keepInFront_sameSides slid later))
  | case4 run later previous rest above kind shared _ nothing ih =>
      exact .step_up [run] (.drop_first nothing) ih
  | case5 => exact .refl _
  | case6 run later previous rest above kind nothing ih =>
      exact .step_up [run] (.drop_first nothing) ih
  | case7 => exact .refl _
  | case8 run later previous rest above kind ih =>
      exact .step_up [run, previous] (SameSides.swap above kind).symm ih
  | case9 run later previous rest above kind ih =>
      exact .step_up [run, previous] (.swap kind above) ih
  | case10 run later previous rest above kind ih =>
      exact .step_up [_] (.join _ _ above kind) ih
  | case11 run later previous rest above kind ih =>
      exact .step_up [_] (.join _ _ above kind) ih
  | case12 => exact .refl _

/-- Moving a run downward keeps both sides, by induction over its way. -/
theorem moveDown_sameSides (earlier : List Run) (run : Run) (later : List Run)
    : SameSides (moveDown earlier run later).runs (earlier.reverse ++ run :: later) := by
  fun_induction moveDown earlier run later with
  | case1 earlier run => exact .refl _
  | case2 earlier run next rest below kind shared _ slid kept moved nothing ih =>
      have slides : SameSides [⟨.keep, slid⟩, moved, ⟨.keep, kept⟩] [run, next] :=
        .slide_down kind below (sharedFront_append_drop next.lines run.lines).symm
          (List.take_append_drop _ _).symm
      have empties : SameSides [⟨.keep, slid⟩, moved] [⟨.keep, slid⟩, moved, ⟨.keep, kept⟩] :=
        (SameSides.refl [⟨.keep, slid⟩]).append (.drop_second nothing)
      refine .step_down [⟨.keep, slid⟩, moved] (empties.trans slides) (ih.trans ?_)
      simpa using (keepBehind_sameSides slid earlier).append (.refl (moved :: rest))
  | case3 earlier run next rest below kind shared _ slid kept moved something ih =>
      have slides : SameSides [⟨.keep, slid⟩, moved, ⟨.keep, kept⟩] [run, next] :=
        .slide_down kind below (sharedFront_append_drop next.lines run.lines).symm
          (List.take_append_drop _ _).symm
      refine .step_down [⟨.keep, slid⟩, moved, ⟨.keep, kept⟩] slides (ih.trans ?_)
      simpa using (keepBehind_sameSides slid earlier).append
        (.refl (moved :: ⟨.keep, kept⟩ :: rest))
  | case4 earlier run next rest below kind shared _ nothing ih =>
      exact .step_down [run] (.drop_second nothing) ih
  | case5 => exact .refl _
  | case6 earlier run next rest below kind nothing ih =>
      exact .step_down [run] (.drop_second nothing) ih
  | case7 => exact .refl _
  | case8 earlier run next rest below kind ih =>
      exact .step_down [next, run] (.swap below kind) (by simpa using ih)
  | case9 earlier run next rest below kind ih =>
      exact .step_down [next, run] (SameSides.swap kind below).symm (by simpa using ih)
  | case10 earlier run next rest below kind ih =>
      exact .step_down [_] (.join _ _ kind below) ih
  | case11 earlier run next rest below kind ih =>
      exact .step_down [_] (.join _ _ kind below) ih
  | case12 => exact .refl _

end RecordSmith.Drift
