import Mathlib.Data.List.Basic
import Mathlib.Data.List.Induction
import RecordSmith.Composition.Fields

/-! Lists without repetitions of concatenated and of renamed lists: what stands in front decides
which of the later elements are kept.
-/

namespace RecordSmith

/-- A concatenation keeps the first list's elements, then what is new in the second, by
induction over the first list.
-/
theorem keepFirst_append (first second : List String)
    : keepFirst (first ++ second)
      = keepFirst first ++ (keepFirst second).filter (· ∉ first) := by
  induction first with
  | nil => exact (List.filter_eq_self.mpr (by simp)).symm
  | cons head rest ih =>
      simp only [List.cons_append, keepFirst, ih, List.filter_append, List.filter_filter]
      congr 2
      apply List.filter_congr
      intro name _
      simp [not_or]

theorem keepFirst_of_nodup {names : List String} (distinct : names.Nodup)
    : keepFirst names = names := by
  induction names with
  | nil => rfl
  | cons head rest ih =>
      obtain ⟨fresh, restDistinct⟩ := List.nodup_cons.mp distinct
      rw [keepFirst, ih restDistinct]
      congr 1
      apply List.filter_eq_self.mpr
      intro name member
      have different : name ≠ head := fun same => fresh (same ▸ member)
      simpa using different

@[simp] theorem keepFirst_keepFirst (names : List String)
    : keepFirst (keepFirst names) = keepFirst names :=
  keepFirst_of_nodup (nodup_keepFirst names)

/-- Elements that stand in front add nothing when they are met again. -/
theorem keepFirst_append_of_subset {first second : List String} (known : second ⊆ first)
    : keepFirst (first ++ second) = keepFirst first := by
  rw [keepFirst_append]
  have nothing : (keepFirst second).filter (· ∉ first) = [] := by
    apply List.filter_eq_nil_iff.mpr
    intro name member
    simpa using known (mem_keepFirst.mp member)
  rw [nothing, List.append_nil]

/-- Adds a name at the end, unless it is there. -/
def insertNew (names : List String) (name : String) : List String :=
  if name ∈ names then names else names ++ [name]

theorem keepFirst_concat (front : List String) (last : String)
    : keepFirst (front ++ [last]) = insertNew (keepFirst front) last := by
  unfold insertNew
  by_cases known : last ∈ front
  · rw [if_pos (mem_keepFirst.mpr known)]
    exact keepFirst_append_of_subset (by simpa using known)
  · rw [if_neg (mt mem_keepFirst.mp known)]
    simp [keepFirst_append, keepFirst, known]

/-- A list without repetitions is built up name by name, by induction from the end. -/
theorem keepFirst_eq_foldl (names : List String)
    : keepFirst names = names.foldl insertNew [] := by
  induction names using List.reverseRecOn with
  | nil => rfl
  | append_singleton front last ih =>
      rw [keepFirst_concat, ih, List.foldl_append, List.foldl_cons, List.foldl_nil]

/-- A walk that has met a property adds it to the fields, unless it is there. -/
def Step.merge (fields : List String) : Step → List String
  | .property name => insertNew fields name
  | _ => fields

/-- The fields are built up step by step as the walk goes on. -/
theorem Definition.fields_eq_foldl (document : Document) (seed : Option String)
    (definition : Definition)
    : definition.fields document seed
      = (definition.walk document (seedChain seed)).foldl Step.merge [] := by
  unfold fields metProperties
  rw [keepFirst_eq_foldl, List.foldl_filterMap]
  congr 1
  funext fields step
  cases step <;> rfl

/-- The front of a concatenation may be exchanged for one that keeps the same elements. -/
theorem keepFirst_append_congr_left {first other : List String}
    (same : keepFirst first = keepFirst other) (second : List String)
    : keepFirst (first ++ second) = keepFirst (other ++ second) := by
  have sameMembers (name : String) : name ∈ first ↔ name ∈ other := by
    rw [← mem_keepFirst, same, mem_keepFirst]
  simp only [keepFirst_append, same, sameMembers]

theorem keepFirst_append_congr_right (first : List String) {second other : List String}
    (same : keepFirst second = keepFirst other)
    : keepFirst (first ++ second) = keepFirst (first ++ other) := by
  simp only [keepFirst_append, same]

/-- Repetitions may be removed from each part before the parts are joined, by induction over
the parts.
-/
theorem keepFirst_flatMap_congr {α : Type} {parts : List α} {left right : α → List String}
    (same : ∀ part ∈ parts, keepFirst (left part) = keepFirst (right part))
    : keepFirst (parts.flatMap left) = keepFirst (parts.flatMap right) := by
  induction parts with
  | nil => rfl
  | cons part rest ih =>
      simp only [List.flatMap_cons]
      calc keepFirst (left part ++ rest.flatMap left)
          = keepFirst (right part ++ rest.flatMap left) :=
            keepFirst_append_congr_left (same part (by simp)) _
        _ = keepFirst (right part ++ rest.flatMap right) :=
            keepFirst_append_congr_right _ (ih fun other member => same other (by simp [member]))

/-- What a list keeps is at the front of what a longer list keeps. -/
theorem keepFirst_mono {first whole : List String} (front : first <+: whole)
    : keepFirst first <+: keepFirst whole := by
  obtain ⟨rest, rfl⟩ := front
  rw [keepFirst_append]
  exact List.prefix_append _ _

/-- Elements may be renamed before or after repetitions are removed, as long as they are removed
in the end, by induction from the end of the list.
-/
theorem keepFirst_map_keepFirst (rename : String → String) (names : List String)
    : keepFirst ((keepFirst names).map rename) = keepFirst (names.map rename) := by
  induction names using List.reverseRecOn with
  | nil => rfl
  | append_singleton front last ih =>
      by_cases known : last ∈ front
      · have again : [last] ⊆ front := by simpa using known
        have renamedAgain : [last].map rename ⊆ front.map rename := List.map_subset rename again
        rw [keepFirst_append_of_subset again, List.map_append,
          keepFirst_append_of_subset renamedAgain]
        exact ih
      · have kept : keepFirst (front ++ [last]) = keepFirst front ++ [last] := by
          rw [keepFirst_concat]
          exact if_neg (mt mem_keepFirst.mp known)
        rw [kept, List.map_append, List.map_append]
        exact keepFirst_append_congr_left ih _

/-- What is kept stands in the order of the first places, by induction over the list. -/
theorem keepFirst_pairwise_idxOf (names : List String)
    : (keepFirst names).Pairwise fun first second =>
        names.idxOf first < names.idxOf second := by
  induction names with
  | nil => exact .nil
  | cons head rest ih =>
      have behind {name : String} (member : name ∈ (keepFirst rest).filter (· ≠ head))
          : (head :: rest).idxOf name = rest.idxOf name + 1 := by
        have other : name ≠ head := by simpa using (List.mem_filter.mp member).2
        exact List.idxOf_cons_ne rest (Ne.symm other)
      rw [keepFirst, List.pairwise_cons]
      constructor
      · intro name member
        rw [List.idxOf_cons_self, behind member]
        exact Nat.succ_pos _
      · refine (ih.filter _).imp_of_mem ?_
        intro first second inFirst inSecond earlier
        rw [behind inFirst, behind inSecond]
        exact Nat.succ_lt_succ earlier

end RecordSmith
