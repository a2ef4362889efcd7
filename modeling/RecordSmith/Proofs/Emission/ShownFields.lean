import RecordSmith.Proofs.Emission.Records

/-! From the properties that the walk meets to the fields that a target shows. On this way
repetitions are removed three times: among the properties, among their snake case forms and among
the names in the target. It is the same to remove them once, at the end, so that a field stands
where the first property stands that becomes this field.
-/

namespace RecordSmith

/-- The name by which a target shows a property. -/
def Target.shownName (target : Target) (property : String) : String :=
  target.fieldName (Text.snakeCase property)

/-- The fields stand for the properties under their new names: each new name is there once, at
the place of the first property that gets it, and there is no other field.
-/
structure StandsFor (rename : String → String) (properties fields : List String) : Prop where
  distinct : fields.Nodup
  shown : ∀ property ∈ properties, fields.count (rename property) = 1
  founded : ∀ field ∈ fields, ∃ property ∈ properties, rename property = field
  ordered
    : fields.Pairwise fun first second =>
        (properties.map rename).idxOf first < (properties.map rename).idxOf second

theorem standsFor_keepFirst (rename : String → String) (properties : List String)
    : StandsFor rename properties (keepFirst (properties.map rename)) where
  distinct := nodup_keepFirst _
  shown property member := by
    have kept : rename property ∈ keepFirst (properties.map rename) :=
      mem_keepFirst.mpr (List.mem_map_of_mem member)
    rw [(nodup_keepFirst _).count, if_pos kept]
  founded field member := List.mem_map.mp (mem_keepFirst.mp member)
  ordered := keepFirst_pairwise_idxOf _

section

variable {document : Document} {name : String} {definition : Definition} {record : Declaration}

theorem Definition.exists_declaration (document : Document) (name : String)
    (becomes : definition.isRecord)
    : ∃ record, definition.declaration? document name = some record :=
  ⟨_, if_pos becomes⟩

/-- The fields of a record are the snake case forms of what the walk meets. -/
theorem Definition.fields_of_declaration?
    (declared : definition.declaration? document name = some record)
    : record.fields
      = keepFirst ((definition.metProperties document (some name)).map Text.snakeCase) := by
  obtain ⟨_, _, _, fields⟩ := Definition.declaration?_eq_some_iff.mp declared
  rw [fields, Definition.fields, keepFirst_map_keepFirst]

/-- The fields that a target shows are its names for what the walk meets. -/
theorem Definition.shownFields_of_declaration? (target : Target)
    (declared : definition.declaration? document name = some record)
    : record.shownFields target
      = keepFirst ((definition.metProperties document (some name)).map target.shownName) := by
  rw [Declaration.shownFields, Definition.fields_of_declaration? declared,
    keepFirst_map_keepFirst, List.map_map]
  rfl

end

/-- A record is declared with the names that the target gives to all properties that the walk
meets, repetitions removed once. Its fields stand for these properties.
-/
theorem Definition.declared_with_shownNames (document : Document) (name : String)
    (definition : Definition) (target : Target) (becomes : definition.isRecord)
    : ∃ record,
        definition.declaration? document name = some record
        ∧ record.text target
          = Text.join "\n"
              (record.shownComment target
                ++ [target.declaration name (record.shownFields target)])
        ∧ record.shownFields target
          = keepFirst ((definition.metProperties document (some name)).map target.shownName)
        ∧ StandsFor target.shownName (definition.metProperties document (some name))
            (record.shownFields target) := by
  obtain ⟨record, declared⟩ := Definition.exists_declaration document name becomes
  obtain ⟨_, named, _, _⟩ := Definition.declaration?_eq_some_iff.mp declared
  have shown := Definition.shownFields_of_declaration? target declared
  refine ⟨record, declared, ?_, shown, ?_⟩
  · rw [Declaration.text, named]
  · rw [shown]
    exact standsFor_keepFirst _ _

/-- Base and Port refer to each other. Route refers to both, and some of its properties become
the same field: `from`, `From` and, in one of the targets, `from_`.
-/
def routes : Document where
  definitions :=
    [("Base", linked "from" ["Port"]), ("Port", linked "fromPort" ["Base"]),
      ("Stop", linked "from_" []), ("Goal", linked "to" []),
      ("Route", linked "From" ["Base", "Port", "Stop", "Goal"])]
  distinct := by decide

theorem metProperties_route
    : (linked "From" ["Base", "Port", "Stop", "Goal"]).metProperties routes (some "Route")
      = ["fromPort", "from", "from", "fromPort", "from_", "to", "From"] := by
  cbv

theorem Definition.declared_with_shownNames_route
    : (linked "From" ["Base", "Port", "Stop", "Goal"]).isRecord
      ∧ ∃ record,
          (linked "From" ["Base", "Port", "Stop", "Goal"]).declaration? routes "Route"
            = some record
          ∧ record.shownFields .python = ["from_port", "from_", "to"]
          ∧ (record.shownFields .python).count (Target.python.shownName "From") = 1 := by
  have becomes : (linked "From" ["Base", "Port", "Stop", "Goal"]).isRecord := rfl
  obtain ⟨record, declared, _, shown, stands⟩ :=
    Definition.declared_with_shownNames routes "Route" _ .python becomes
  rw [metProperties_route] at shown stands
  refine ⟨becomes, record, declared, ?_, stands.shown "From" (by decide)⟩
  rw [shown]
  decide +kernel

end RecordSmith
