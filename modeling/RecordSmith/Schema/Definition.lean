import RecordSmith.Schema.Reference

/-! Definitions of a schema, reduced to what records are made of. -/

namespace RecordSmith

mutual

/-- An entry of a composition list: a reference, or a fragment written in place. -/
inductive Member where
  | reference (ref : Reference)
  | inline (fragment : Definition)

/-- A definition: its description, its property names in order, and its composition list in
order, each absent when the schema does not give it.
-/
structure Definition where
  description : Option String
  properties : Option (List String)
  composition : Option (List Member)

end

namespace Definition

/-- The names of the definition's own properties. -/
def propertyNames (definition : Definition) : List String :=
  definition.properties.getD []

/-- The members of the composition list. -/
def members (definition : Definition) : List Member :=
  definition.composition.getD []

/-- The definition becomes a record. Empty lists count, absent ones do not. -/
def isRecord (definition : Definition) : Bool :=
  definition.properties.isSome || definition.composition.isSome

/-- The composition list is smaller than the definition. -/
theorem sizeOf_members (definition : Definition)
    : sizeOf definition.members < sizeOf definition := by
  obtain ⟨description, properties, composition⟩ := definition
  cases composition <;> simp +arith [members]

end Definition

mutual

/-- The definition's description: its own, or else the first that an inline fragment gives.
Referenced definitions never lend theirs.
-/
def Definition.caption (definition : Definition) : Option String :=
  match definition.description with
  | some text => some text
  | none => Member.firstCaption definition.members
termination_by sizeOf definition
decreasing_by exact definition.sizeOf_members

/-- The first description that the inline fragments of a list give. -/
def Member.firstCaption : List Member → Option String
  | [] => none
  | .reference _ :: rest => Member.firstCaption rest
  | .inline fragment :: rest =>
      match fragment.caption with
      | some text => some text
      | none => Member.firstCaption rest
termination_by members => sizeOf members

end

end RecordSmith
