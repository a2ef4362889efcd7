import RecordSmith.Proofs.Composition.SingleVisit

/-! The fields of a definition are the properties listed by all that it can reach. The guard
against cycles loses none of them.
-/

namespace RecordSmith

/-- The property is listed in the definition, or in one that a chain of references leads to
past what is avoided.
-/
def Document.Offers (document : Document) (avoided : Option String)
    (definition : Definition) (property : String)
    : Prop :=
  definition.Lists property
  ∨ ∃ name target,
      document.Leads avoided definition name
      ∧ document.get? name = some target
      ∧ target.Lists property

/-- What is behind a reference is within reach. -/
theorem Document.Offers.behind {document : Document} {avoided : Option String}
    {definition target : Definition} {ref : Reference} {name property : String}
    (cited : definition.Cites ref) (resolved : document.Resolves ref name target)
    (allowed : avoided ≠ some name) (offered : document.Offers avoided target property)
    : document.Offers avoided definition property := by
  rcases offered with listed | ⟨last, lastTarget, further, found, listed⟩
  · exact .inr ⟨name, target, .direct cited resolved allowed, resolved.2, listed⟩
  · exact .inr ⟨last, lastTarget, .onward cited resolved allowed further, found, listed⟩

/-- The chain of a seed holds the seed only. -/
@[simp] theorem mem_seedChain {seed : Option String} {name : String}
    : name ∈ seedChain seed ↔ seed = some name := by
  simp [seedChain]

/-- The walk meets only what is within reach past the seed, by induction over what it opens.
-/
theorem Definition.offers_of_mem_walk {document : Document} {seed : Option String}
    {chain : List String} {definition : Definition} {property : String}
    (started : seedChain seed ⊆ chain)
    (met : .property property ∈ definition.walk document chain)
    : document.Offers seed definition property := by
  induction chain, definition using document.opening_induction with
  | step chain definition ih =>
      rcases Definition.property_mem_walk.mp met with
        listed | ⟨ref, name, target, cited, resolved, fresh, below⟩
      · exact .inl listed
      · have allowed : seed ≠ some name := fun same => fresh (started (mem_seedChain.mpr same))
        exact .behind cited resolved allowed
          (ih chain ref name target (List.Subset.refl _) cited resolved fresh
            (List.Subset.trans started (List.subset_cons_self name chain)) below)

/-- When nothing is open but the seed, all that a chain of references leads to past the seed
shows nothing new. Witness: induction over the chain; each name on it was entered and left.
-/
theorem Settled.covered_of_leads {document : Document} {seed : Option String}
    {entered known : List String} {definition target : Definition} {name : String}
    (settled : Settled document (seedChain seed) entered known)
    (covered : Covered document entered known definition.pieces)
    (leads : document.Leads seed definition name)
    (found : document.get? name = some target)
    : Covered document entered known target.pieces := by
  have leftBehind {definition next : Definition} {ref : Reference} {name : String}
      (covered : Covered document entered known definition.pieces)
      (cited : definition.Cites ref) (resolved : document.Resolves ref name next)
      (allowed : seed ≠ some name) : Covered document entered known next.pieces := by
    have before : name ∈ entered :=
      covered.references ref name next (Definition.reference_mem_pieces.mpr cited) resolved
    exact settled.left name next before (by simpa using allowed) resolved.2
  induction leads with
  | direct cited resolved allowed =>
      cases resolved.2.symm.trans found
      exact leftBehind covered cited resolved allowed
  | onward cited resolved allowed _ ih =>
      exact ih (leftBehind covered cited resolved allowed) found

/-- The visit from the start meets all that is within reach past the seed. -/
theorem Definition.mem_visit_of_offers {document : Document} {seed : Option String}
    {definition : Definition} {property : String}
    (offered : document.Offers seed definition property)
    : property ∈ (definition.visit document (seedChain seed)).properties := by
  have keepsUp := definition.visit_keepsUp_start document seed
  have settled := keepsUp.settled
  have covered := keepsUp.covered
  rw [List.nil_append] at settled covered
  rcases offered with listed | ⟨name, target, leads, found, listed⟩
  · exact covered.properties property (Definition.property_mem_pieces.mpr listed)
  · exact (settled.covered_of_leads covered leads found).properties property
      (Definition.property_mem_pieces.mpr listed)

/-- The fields are what is within reach past the seed. -/
theorem Definition.mem_fields {document : Document} {seed : Option String}
    {definition : Definition} {property : String}
    : property ∈ definition.fields document seed
      ↔ document.Offers seed definition property := by
  constructor
  · intro member
    have met : .property property ∈ definition.walk document (seedChain seed) :=
      mem_propertiesOf.mp (mem_keepFirst.mp member)
    exact Definition.offers_of_mem_walk (List.Subset.refl _) met
  · intro offered
    have visited := mem_keepFirst.mpr (Definition.mem_visit_of_offers offered)
    rwa [← (definition.visit_keepsUp_start document seed).keepFirst_eq] at visited

/-- A chain of references that comes back to a definition's own name can start there anew.
Witness: induction over the chain; only what follows the last return is needed.
-/
theorem Document.Leads.past_own {document : Document} {name last : String}
    {own definition : Definition} (found : document.get? name = some own)
    (leads : document.Leads none definition last)
    : last = name
      ∨ document.Leads (some name) definition last
      ∨ document.Leads (some name) own last := by
  induction leads with
  | @direct definition target ref next cited resolved _ =>
      by_cases same : next = name
      · exact .inl same
      · exact .inr (.inl (.direct cited resolved (by simpa using Ne.symm same)))
  | @onward definition target ref next last cited resolved _ _ ih =>
      rcases ih with returned | avoiding | fromOwn
      · exact .inl returned
      · by_cases same : next = name
        · subst same
          cases found.symm.trans resolved.2
          exact .inr (.inr avoiding)
        · exact .inr (.inl (.onward cited resolved (by simpa using Ne.symm same) avoiding))
      · exact .inr (.inr fromOwn)

/-- A chain of references past what is avoided is a chain of references. -/
theorem Document.Leads.unrestricted {document : Document} {avoided : Option String}
    {definition : Definition} {name : String}
    (leads : document.Leads avoided definition name)
    : document.Leads none definition name := by
  induction leads with
  | direct cited resolved _ => exact .direct cited resolved (by simp)
  | onward cited resolved _ _ ih => exact .onward cited resolved (by simp) ih

/-- For a definition of the document, avoiding its own name puts nothing out of reach. -/
theorem Document.offers_past_own {document : Document} {name : String}
    {definition : Definition} (found : document.get? name = some definition)
    {property : String}
    : document.Offers (some name) definition property
      ↔ document.Offers none definition property := by
  constructor
  · rintro (listed | ⟨last, target, leads, lastFound, listed⟩)
    · exact .inl listed
    · exact .inr ⟨last, target, leads.unrestricted, lastFound, listed⟩
  · rintro (listed | ⟨last, target, leads, lastFound, listed⟩)
    · exact .inl listed
    · rcases leads.past_own found with returned | avoiding | avoiding
      · subst returned
        cases found.symm.trans lastFound
        exact .inl listed
      · exact .inr ⟨last, target, avoiding, lastFound, listed⟩
      · exact .inr ⟨last, target, avoiding, lastFound, listed⟩

/-- The fields of a definition are exactly the properties within its reach past the seed, each
of them once. For a definition of the document under its own name this is all that it reaches,
whatever cycles there are.
-/
theorem Definition.fields_exactly_offered (document : Document) (seed : Option String)
    (definition : Definition)
    : (∀ property,
        property ∈ definition.fields document seed
        ↔ document.Offers seed definition property)
      ∧ (∀ property,
          document.Offers seed definition property
          → (definition.fields document seed).count property = 1)
      ∧ ∀ name,
          seed = some name
          → document.get? name = some definition
          → ∀ property,
              property ∈ definition.fields document seed
              ↔ document.Offers none definition property := by
  refine ⟨fun property => Definition.mem_fields, ?_, ?_⟩
  · intro property offered
    have distinct : (definition.fields document seed).Nodup := nodup_keepFirst _
    rw [distinct.count, if_pos (Definition.mem_fields.mpr offered)]
  · intro name same found property
    subst same
    exact Definition.mem_fields.trans (Document.offers_past_own found)

/-- Two cycles that share a definition: A and B refer to each other, and so do B and C. -/
def sharedCycles : Document where
  definitions := [("A", linked "a" ["B"]), ("B", linked "b" ["A", "C"]), ("C", linked "c" ["B"])]
  distinct := by decide

/-- C is two references away from A, past a cycle back to A, and A has its property. -/
theorem Definition.fields_exactly_offered_sharedCycles
    : sharedCycles.get? "A" = some (linked "a" ["B"])
      ∧ ((linked "a" ["B"]).fields sharedCycles (some "A")).count "c" = 1 := by
  have own : sharedCycles.get? "A" = some (linked "a" ["B"]) := rfl
  have toB : sharedCycles.Resolves ⟨"#/definitions/B"⟩ "B" (linked "b" ["A", "C"]) := ⟨rfl, rfl⟩
  have toC : sharedCycles.Resolves ⟨"#/definitions/C"⟩ "C" (linked "c" ["B"]) := ⟨rfl, rfl⟩
  have leads : sharedCycles.Leads none (linked "a" ["B"]) "C" :=
    .onward ⟨_, .self _, .head _⟩ toB (by simp)
      (.direct ⟨_, .self _, .tail _ (.head _)⟩ toC (by simp))
  have offered : sharedCycles.Offers none (linked "a" ["B"]) "c" :=
    .inr ⟨"C", linked "c" ["B"], leads, rfl, _, .self _, .head _⟩
  have exactly := Definition.fields_exactly_offered sharedCycles (some "A") (linked "a" ["B"])
  have member := (exactly.2.2 "A" rfl own "c").mpr offered
  exact ⟨own, exactly.2.1 "c" ((exactly.1 "c").mp member)⟩

end RecordSmith
