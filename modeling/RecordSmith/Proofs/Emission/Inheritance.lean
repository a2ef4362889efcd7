import RecordSmith.Proofs.Emission.ShownFields

/-! A record begins with the fields of its base, which is what its composition list begins with.
The base is walked with the record open, but a base that does not lead back to the record never
notices. What the base shows then stands in front, and no later repetition moves it.
-/

namespace RecordSmith

section

variable {document : Document} {name baseName : String} {definition base : Definition}
  {ref : Reference}

/-- An open name that the definition does not reach plays no part in its walk. -/
theorem Definition.walk_open_behind (apart : ¬ document.Leads none base name)
    : base.walk document [baseName, name] = base.walk document [baseName] := by
  apply Definition.walk_congr_open
  intro reached leads
  have other : reached ≠ name := by
    intro same
    exact apart (same ▸ leads)
  simp [other]

/-- A definition does not refer to itself at its front, if what stands there does not lead back
to it.
-/
theorem Document.Resolves.name_ne (resolved : document.Resolves ref baseName base)
    (found : document.get? name = some definition) (cited : definition.Cites ref)
    (apart : ¬ document.Leads none base name)
    : baseName ≠ name := by
  intro same
  subst same
  cases found.symm.trans resolved.2
  exact apart (.direct cited resolved (by simp))

/-- The walk of a definition begins with the walk of its base. -/
theorem Definition.metProperties_of_base (found : document.get? name = some definition)
    (first : definition.members.head? = some (.reference ref))
    (resolved : document.Resolves ref baseName base)
    (apart : ¬ document.Leads none base name)
    : base.metProperties document (some baseName)
      <+: definition.metProperties document (some name) := by
  obtain ⟨rest, members⟩ := List.head?_eq_some_iff.mp first
  have cited : definition.Cites ref := ⟨definition, .self _, List.mem_of_head? first⟩
  have fresh : baseName ∉ [name] := by
    simpa using resolved.name_ne found cited apart
  have steps : definition.walk document [name]
      = base.walk document [baseName]
        ++ (Member.walkAll document [name] rest
          ++ definition.propertyNames.map Step.property) := by
    rw [Definition.walk, members, Member.walkAll, Member.walk_of_fresh resolved fresh,
      Definition.walk_open_behind apart, List.append_assoc]
  have seeded (own : String) : seedChain (some own) = [own] := rfl
  rw [Definition.metProperties, Definition.metProperties, seeded, seeded, steps,
    List.filterMap_append]
  exact List.prefix_append _ _

end

/-- When the composition list of a definition begins with a reference to a record that does not
lead back to the definition, the fields of this record come first: in the declaration, and in
what every target shows of it. Other cycles of references may be around.
-/
theorem Definition.base_fields_first {document : Document} {name baseName : String}
    {definition base : Definition} {ref : Reference}
    (found : document.get? name = some definition)
    (first : definition.members.head? = some (.reference ref))
    (resolved : document.Resolves ref baseName base) (becomes : base.isRecord)
    (apart : ¬ document.Leads none base name)
    : ∃ inherited derived,
        base.declaration? document baseName = some inherited
        ∧ definition.declaration? document name = some derived
        ∧ inherited.fields <+: derived.fields
        ∧ ∀ target, inherited.shownFields target <+: derived.shownFields target := by
  have cited : definition.Cites ref := ⟨definition, .self _, List.mem_of_head? first⟩
  obtain ⟨inherited, inheritedDeclared⟩ :=
    Definition.exists_declaration document baseName becomes
  obtain ⟨derived, derivedDeclared⟩ := Definition.exists_declaration document name cited.isRecord
  have front := Definition.metProperties_of_base found first resolved apart
  refine ⟨inherited, derived, inheritedDeclared, derivedDeclared, ?_, ?_⟩
  · rw [Definition.fields_of_declaration? inheritedDeclared,
      Definition.fields_of_declaration? derivedDeclared]
    exact keepFirst_mono (front.map _)
  · intro target
    rw [Definition.shownFields_of_declaration? target inheritedDeclared,
      Definition.shownFields_of_declaration? target derivedDeclared]
    exact keepFirst_mono (front.map _)

/-- Base does not lead to Route: it would have the property that Route lists. -/
theorem routes_apart : ¬ routes.Leads none (linked "from" ["Port"]) "Route" := by
  intro leads
  have listed : (linked "From" ["Base", "Port", "Stop", "Goal"]).Lists "From" :=
    ⟨_, .self _, .head _⟩
  have member : "From" ∈ (linked "from" ["Port"]).fields routes none :=
    Definition.mem_fields.mpr (.inr ⟨"Route", _, leads, rfl, listed⟩)
  have fields : (linked "from" ["Port"]).fields routes none = ["from", "fromPort"] := by
    cbv
  rw [fields] at member
  revert member
  decide

/-- Base lies on a cycle, and Route lists a property that becomes a field of Base. -/
theorem Definition.base_fields_first_route
    : routes.get? "Route" = some (linked "From" ["Base", "Port", "Stop", "Goal"])
      ∧ (linked "From" ["Base", "Port", "Stop", "Goal"]).members.head?
        = some (.reference ⟨"#/definitions/Base"⟩)
      ∧ routes.Resolves ⟨"#/definitions/Base"⟩ "Base" (linked "from" ["Port"])
      ∧ (linked "from" ["Port"]).isRecord
      ∧ ¬ routes.Leads none (linked "from" ["Port"]) "Route"
      ∧ ∃ inherited derived,
          (linked "from" ["Port"]).declaration? routes "Base" = some inherited
          ∧ (linked "From" ["Base", "Port", "Stop", "Goal"]).declaration? routes "Route"
            = some derived
          ∧ inherited.fields <+: derived.fields
          ∧ ∀ target, inherited.shownFields target <+: derived.shownFields target := by
  have toBase : routes.Resolves ⟨"#/definitions/Base"⟩ "Base" (linked "from" ["Port"]) := ⟨rfl, rfl⟩
  exact ⟨rfl, rfl, toBase, rfl, routes_apart,
    Definition.base_fields_first rfl rfl toBase rfl routes_apart⟩

end RecordSmith
