import RecordSmith.Proofs.Store.Writing

/-! What paths see after a write. A path that leads elsewhere sees what it saw before, except
that it may fail for another reason, and the same write again changes nothing.
-/

namespace RecordSmith

-----------------------------------------------------------------------------------------
-- Results up to the reason of failure
-----------------------------------------------------------------------------------------

/-- Both give the same value, or both fail, be it for different reasons. -/
def SameSuccess {ε α : Type} (first second : Except ε α) : Prop :=
  ∀ value, first = .ok value ↔ second = .ok value

instance decidableOk {ε α : Type} [DecidableEq α] (result : Except ε α) (value : α)
    : Decidable (result = .ok value) :=
  match result with
  | .ok found => decidable_of_iff (found = value) (by simp)
  | .error _ => isFalse nofun

instance decidableError {ε α : Type} [DecidableEq ε] (result : Except ε α) (reason : ε)
    : Decidable (result = .error reason) :=
  match result with
  | .ok _ => isFalse nofun
  | .error found => decidable_of_iff (found = reason) (by simp)

namespace SameSuccess

variable {ε α β : Type}

theorem of_eq {first second : Except ε α} (same : first = second)
    : SameSuccess first second := by
  intro value
  rw [same]

theorem of_errors (error other : ε) : SameSuccess (.error error : Except ε α) (.error other) := by
  intro value
  exact ⟨nofun, nofun⟩

/-- Two results succeed with the same value or fail together. -/
theorem cases {first second : Except ε α} (same : SameSuccess first second)
    : (∃ value, first = .ok value ∧ second = .ok value)
      ∨ ∃ error other, first = .error error ∧ second = .error other := by
  cases first with
  | ok value => exact .inl ⟨value, rfl, (same value).mp rfl⟩
  | error error =>
      cases second with
      | ok value => cases (same value).mpr rfl
      | error other => exact .inr ⟨error, other, rfl, rfl⟩

/-- What is made of the same value is the same again. -/
theorem bind {first second : Except ε α} {next other : α → Except ε β}
    (same : SameSuccess first second)
    (sameNext : ∀ value, first = .ok value → SameSuccess (next value) (other value))
    : SameSuccess (first >>= next) (second >>= other) := by
  rcases same.cases with ⟨value, found, alsoFound⟩ | ⟨error, reason, failed, alsoFailed⟩
  · rw [found, alsoFound]
    exact sameNext value found
  · rw [failed, alsoFailed]
    exact of_errors error reason

end SameSuccess

namespace Store

variable {before after : Store} {base location : Location} {path text : String}

-----------------------------------------------------------------------------------------
-- Paths that lead elsewhere
-----------------------------------------------------------------------------------------

/-- The rewritten location is on no way through directories, neither before nor after, so that
the same walks succeed, by induction over the names.
-/
theorem Rewrites.walk_sameSuccess (rewrites : before.Rewrites after location text)
    (free : before.node? location ≠ some .directory) (start : Location)
    (names : List String)
    : SameSuccess (after.walk start names) (before.walk start names) := by
  induction names generalizing start with
  | nil => exact .of_eq rfl
  | cons name rest ih =>
      by_cases here : start = location
      · subst here
        simp only [walk, rewrites.written]
        split
        · exact .of_errors _ _
        · exact .of_errors _ _
        · next directory => exact absurd directory free
      · simp only [walk, rewrites.others start here]
        split
        · exact .of_eq rfl
        · exact .of_eq rfl
        · split
          · exact ih _
          · exact .of_eq rfl

theorem Rewrites.locate_sameSuccess (rewrites : before.Rewrites after location text)
    (free : before.node? location ≠ some .directory) (base : Location) (path : String)
    : SameSuccess (after.locate base path) (before.locate base path) := by
  unfold locate
  split
  · exact .of_eq rfl
  · exact rewrites.walk_sameSuccess free _ _

/-- A path that leads elsewhere finds the same node as before, or none as before. -/
theorem Rewrites.look_sameSuccess (rewrites : before.Rewrites after location text)
    (free : before.node? location ≠ some .directory)
    (elsewhere : before.locate base path ≠ .ok location)
    : SameSuccess (after.look base path) (before.look base path) := by
  have located := rewrites.locate_sameSuccess free base path
  apply located.bind
  intro last found
  have other : last ≠ location := by
    rintro rfl
    exact elsewhere ((located last).mp found)
  rw [rewrites.others last other]
  exact .of_eq rfl

-----------------------------------------------------------------------------------------
-- What is seen of a node
-----------------------------------------------------------------------------------------

section

variable {first second : Store}
  (same : SameSuccess (first.look base path) (second.look base path))

include same

theorem isFile_eq_of_look : first.isFile base path = second.isFile base path := by
  unfold isFile
  rcases same.cases with ⟨node, found, alsoFound⟩ | ⟨_, _, failed, alsoFailed⟩
  · rw [found, alsoFound]
  · rw [failed, alsoFailed]

theorem holds_eq_of_look : first.holds base path = second.holds base path := by
  unfold holds
  rcases same.cases with ⟨node, found, alsoFound⟩ | ⟨_, _, failed, alsoFailed⟩
  · rw [found, alsoFound]
  · rw [failed, alsoFailed]

theorem readText_of_look
    : SameSuccess (first.readText base path) (second.readText base path) :=
  same.bind fun _ _ => .of_eq rfl

end

-----------------------------------------------------------------------------------------
-- Writing again
-----------------------------------------------------------------------------------------

theorem target_free {store : Store} (found : store.target base path = .ok location)
    : store.node? location ≠ some .directory := by
  obtain ⟨_, parent, last, _, _, _, _, free, rfl⟩ := target_eq_ok found
  exact free

/-- A written file can be written again by the same path. -/
theorem Rewrites.target_again (rewrites : before.Rewrites after location text)
    (found : before.target base path = .ok location)
    : after.target base path = .ok location := by
  have free := target_free found
  obtain ⟨faultless, parent, last, walked, first, proper, fits, _, rfl⟩ := target_eq_ok found
  obtain ⟨⟨notDot, notDots⟩, unslashed⟩ := proper
  have walkedAgain := (rewrites.walk_sameSuccess free _ _ parent).mpr walked
  unfold target
  simp only [faultless, walkedAgain, first, bind, Except.bind]
  simp [notDot, notDots, unslashed, fits, rewrites.written]

/-- Putting what is there changes nothing, by induction over the nodes. -/
theorem put_of_find? {node : Node} {nodes : List (Location × Node)}
    (held : find? location nodes = some node)
    : put location node nodes = nodes := by
  induction nodes with
  | nil => cases held
  | cons entry rest ih =>
      obtain ⟨place, old⟩ := entry
      unfold find? at held
      unfold put
      split at held
      · next same =>
          cases held
          rw [if_pos same]
      · next other => rw [if_neg other, ih held]

theorem Rewrites.writeText_again (rewrites : before.Rewrites after location text)
    (found : before.target base path = .ok location)
    : after.writeText base path text = .ok after := by
  have placed : location ≠ [] := by
    rintro rfl
    exact target_free found rfl
  have held : find? location after.nodes = some (.file (.text text)) := by
    have written := rewrites.written
    unfold node? at written
    rwa [if_neg (by simpa using placed)] at written
  unfold writeText
  rw [rewrites.target_again found]
  simp only [bind, Except.bind, pure, Except.pure, insert, put_of_find? held]

end Store

end RecordSmith
