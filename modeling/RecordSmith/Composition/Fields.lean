import RecordSmith.Composition.Walk

/-! The fields of a definition: the properties of all it is composed of, each once and at the
place where it is first met.
-/

namespace RecordSmith

/-- The list without repetitions; each element stays where it first stands. -/
def keepFirst : List String → List String
  | [] => []
  | name :: rest => name :: (keepFirst rest).filter (· ≠ name)

/-- A list without repetitions has the elements of the list. -/
@[simp] theorem mem_keepFirst {name : String} {names : List String}
    : name ∈ keepFirst names ↔ name ∈ names := by
  induction names with
  | nil => simp [keepFirst]
  | cons head rest ih =>
      by_cases same : name = head <;> simp [keepFirst, ih, same]

/-- A list without repetitions has none, by induction over the filtered rest. -/
theorem nodup_keepFirst (names : List String)
    : (keepFirst names).Nodup := by
  induction names with
  | nil => simp [keepFirst]
  | cons head rest ih =>
      rw [keepFirst, List.nodup_cons]
      exact ⟨by simp, ih.sublist List.filter_sublist⟩

/-- The chain that a walk starts with: the definition's own name, if it has one. -/
def seedChain (seed : Option String) : List String :=
  seed.toList

/-- All property names in the order in which the walk meets them, repetitions included. -/
def Definition.metProperties (document : Document) (seed : Option String)
    (definition : Definition)
    : List String :=
  (definition.walk document (seedChain seed)).filterMap Step.property?

/-- The field names of a definition, as written in the schema. -/
def Definition.fields (document : Document) (seed : Option String) (definition : Definition)
    : List String :=
  keepFirst (definition.metProperties document seed)

end RecordSmith
