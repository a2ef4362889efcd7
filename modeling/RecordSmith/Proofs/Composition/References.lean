import RecordSmith.Composition.Fields

/-! What a definition is made of and what it refers to: its inline fragments at any depth, its
pieces in the order of the walk, and the definitions that chains of references lead to.
-/

namespace RecordSmith

-----------------------------------------------------------------------------------------
-- Inline fragments
-----------------------------------------------------------------------------------------

/-- The second definition is the first or an inline fragment at any depth in it. -/
inductive Definition.Part : Definition → Definition → Prop
  | self (definition : Definition) : Part definition definition
  | nested {definition fragment part : Definition}
    (member : .inline fragment ∈ definition.members) (below : Part fragment part)
    : Part definition part

/-- The property is listed in the definition or in an inline fragment of it. -/
def Definition.Lists (definition : Definition) (property : String) : Prop :=
  ∃ part, definition.Part part ∧ property ∈ part.propertyNames

/-- The reference is a member of the definition or of an inline fragment of it. -/
def Definition.Cites (definition : Definition) (ref : Reference) : Prop :=
  ∃ part, definition.Part part ∧ .reference ref ∈ part.members

/-- A definition with its inline fragments is made of properties and references. -/
inductive Piece where
  | property (name : String)
  | reference (ref : Reference)

mutual

/-- The properties and references of a definition and of its inline fragments, in the order
in which the walk comes upon them.
-/
def Definition.pieces (definition : Definition) : List Piece :=
  Member.piecesOfAll definition.members ++ definition.propertyNames.map Piece.property
termination_by sizeOf definition
decreasing_by exact definition.sizeOf_members

/-- The pieces of the members of a composition list. -/
def Member.piecesOfAll : List Member → List Piece
  | [] => []
  | member :: rest => Member.pieces member ++ Member.piecesOfAll rest
termination_by members => sizeOf members

/-- The pieces of a member: a reference, or those of a fragment. -/
def Member.pieces : Member → List Piece
  | .reference ref => [.reference ref]
  | .inline fragment => fragment.pieces
termination_by member => sizeOf member

end

theorem Member.mem_piecesOfAll {piece : Piece} {members : List Member}
    : piece ∈ Member.piecesOfAll members ↔ ∃ member ∈ members, piece ∈ member.pieces := by
  induction members with
  | nil => simp [Member.piecesOfAll]
  | cons member rest ih => simp [Member.piecesOfAll, ih]

/-- A piece belongs to a definition or to one of its direct fragments. -/
theorem Definition.mem_pieces {piece : Piece} {definition : Definition}
    : piece ∈ definition.pieces
      ↔ (∃ name ∈ definition.propertyNames, piece = .property name)
        ∨ (∃ ref, .reference ref ∈ definition.members ∧ piece = .reference ref)
        ∨ ∃ fragment, .inline fragment ∈ definition.members ∧ piece ∈ fragment.pieces := by
  rw [Definition.pieces, List.mem_append, Member.mem_piecesOfAll]
  constructor
  · rintro (⟨member, among, inside⟩ | own)
    · cases member with
      | reference ref => exact .inr (.inl ⟨ref, among, by simpa [Member.pieces] using inside⟩)
      | inline fragment =>
          exact .inr (.inr ⟨fragment, among, by simpa [Member.pieces] using inside⟩)
    · obtain ⟨name, listed, rfl⟩ := List.mem_map.mp own
      exact .inl ⟨name, listed, rfl⟩
  · rintro (⟨name, listed, rfl⟩ | ⟨ref, among, rfl⟩ | ⟨fragment, among, inside⟩)
    · exact .inr (List.mem_map_of_mem listed)
    · exact .inl ⟨_, among, by simp [Member.pieces]⟩
    · exact .inl ⟨_, among, by simpa [Member.pieces] using inside⟩

/-- What a part is made of, the definition is made of, by induction over the nesting. -/
theorem Definition.Part.pieces_subset {definition part : Definition}
    (within : definition.Part part)
    : part.pieces ⊆ definition.pieces := by
  induction within with
  | self => exact List.Subset.refl _
  | nested among _ ih =>
      intro piece member
      exact Definition.mem_pieces.mpr (.inr (.inr ⟨_, among, ih member⟩))

/-- Each piece stands directly in some part, by induction over the size of the definition. -/
theorem Definition.exists_part_of_mem_pieces {piece : Piece} {definition : Definition}
    (member : piece ∈ definition.pieces)
    : ∃ part,
        definition.Part part
        ∧ ((∃ name ∈ part.propertyNames, piece = .property name)
          ∨ ∃ ref, .reference ref ∈ part.members ∧ piece = .reference ref) := by
  rcases Definition.mem_pieces.mp member with own | own | ⟨fragment, among, inside⟩
  · exact ⟨definition, .self _, .inl own⟩
  · exact ⟨definition, .self _, .inr own⟩
  · have smaller : sizeOf fragment < sizeOf definition := by
      have inList := List.sizeOf_lt_of_mem among
      have inDefinition := definition.sizeOf_members
      simp only [Member.inline.sizeOf_spec] at inList
      omega
    obtain ⟨part, within, found⟩ := exists_part_of_mem_pieces inside
    exact ⟨part, .nested among within, found⟩
termination_by sizeOf definition

/-- A definition lists exactly the properties among its pieces. -/
theorem Definition.property_mem_pieces {definition : Definition} {property : String}
    : .property property ∈ definition.pieces ↔ definition.Lists property := by
  constructor
  · intro member
    obtain ⟨part, within, ⟨name, listed, same⟩ | ⟨_, _, same⟩⟩ :=
      Definition.exists_part_of_mem_pieces member
    · cases same
      exact ⟨part, within, listed⟩
    · cases same
  · rintro ⟨part, within, listed⟩
    exact within.pieces_subset (Definition.mem_pieces.mpr (.inl ⟨_, listed, rfl⟩))

theorem Definition.reference_mem_pieces {definition : Definition} {ref : Reference}
    : .reference ref ∈ definition.pieces ↔ definition.Cites ref := by
  constructor
  · intro member
    obtain ⟨part, within, ⟨_, _, same⟩ | ⟨_, among, same⟩⟩ :=
      Definition.exists_part_of_mem_pieces member
    · cases same
    · cases same
      exact ⟨part, within, among⟩
  · rintro ⟨part, within, among⟩
    exact within.pieces_subset (Definition.mem_pieces.mpr (.inr (.inl ⟨_, among, rfl⟩)))

theorem Definition.isRecord_of_member {definition : Definition} {member : Member}
    (among : member ∈ definition.members)
    : definition.isRecord := by
  cases given : definition.composition with
  | none => simp [Definition.members, given] at among
  | some _ => simp [Definition.isRecord, given]

theorem Definition.Cites.isRecord {definition : Definition} {ref : Reference}
    (cited : definition.Cites ref)
    : definition.isRecord := by
  obtain ⟨part, within, among⟩ := cited
  cases within with
  | self => exact Definition.isRecord_of_member among
  | nested member _ => exact Definition.isRecord_of_member member

/-- A definition that lists one property and refers to definitions by their names. -/
def linked (property : String) (names : List String) : Definition where
  description := none
  properties := some [property]
  composition := some (names.map fun name => .reference ⟨"#/definitions/" ++ name⟩)

theorem cites_linked {property : String} {names : List String} {ref : Reference}
    (cited : (linked property names).Cites ref)
    : ∃ name ∈ names, ref = ⟨"#/definitions/" ++ name⟩ := by
  obtain ⟨part, within, among⟩ := cited
  cases within with
  | self => simpa [linked, Definition.members, eq_comm] using among
  | nested member _ => simp [linked, Definition.members] at member

-----------------------------------------------------------------------------------------
-- Chains of references
-----------------------------------------------------------------------------------------

/-- The reference names a definition that the document has. -/
def Document.Resolves (document : Document) (ref : Reference) (name : String)
    (target : Definition)
    : Prop :=
  ref.target? = some name ∧ document.get? name = some target

theorem Document.Resolves.unique {document : Document} {ref : Reference}
    {name other : String} {target otherTarget : Definition}
    (resolved : document.Resolves ref name target)
    (again : document.Resolves ref other otherTarget)
    : name = other ∧ target = otherTarget := by
  obtain ⟨named, found⟩ := resolved
  obtain ⟨otherNamed, otherFound⟩ := again
  have sameName : name = other := Option.some.inj (named.symm.trans otherNamed)
  subst sameName
  exact ⟨rfl, Option.some.inj (found.symm.trans otherFound)⟩

/-- A chain of one or more references that resolve leads from the definition to the name, and
none of them names what is avoided.
-/
inductive Document.Leads (document : Document) (avoided : Option String)
    : Definition → String → Prop
  | direct {definition target : Definition} {ref : Reference} {name : String}
    (cited : definition.Cites ref) (resolved : document.Resolves ref name target)
    (allowed : avoided ≠ some name)
    : Leads document avoided definition name
  | onward {definition target : Definition} {ref : Reference} {name last : String}
    (cited : definition.Cites ref) (resolved : document.Resolves ref name target)
    (allowed : avoided ≠ some name) (further : Leads document avoided target last)
    : Leads document avoided definition last

/-- The name's definition leads back to the name. -/
def Document.OnCycle (document : Document) (name : String) : Prop :=
  ∃ definition, document.get? name = some definition ∧ document.Leads none definition name

/-- References that lower a rank of the names never lead up again, by induction over the
chain.
-/
theorem Document.Leads.rank_lt {document : Document} {rank : String → Nat}
    (falls : ∀ name definition ref next target,
      document.get? name = some definition → definition.Cites ref
      → document.Resolves ref next target → rank next < rank name)
    {name last : String} {definition : Definition}
    (found : document.get? name = some definition)
    (leads : document.Leads none definition last)
    : rank last < rank name := by
  induction leads generalizing name with
  | direct cited resolved _ => exact falls _ _ _ _ _ found cited resolved
  | onward cited resolved _ _ ih =>
      exact Nat.lt_trans (ih resolved.2) (falls _ _ _ _ _ found cited resolved)

theorem Document.closedCount_le {document : Document} {chain more : List String}
    (grown : chain ⊆ more)
    : document.closedCount more ≤ document.closedCount chain := by
  simp only [Document.closedCount, ← List.countP_eq_length_filter]
  apply List.countP_mono_left
  intro name _ closed
  simp only [List.contains_eq_mem, Bool.not_eq_true', decide_eq_false_iff_not] at closed ⊢
  exact fun opened => closed (grown opened)

/-- What holds of a definition whenever it holds of all that it refers to, opened on top of
the same or of more names, holds of every definition, by induction over the closed names.
-/
theorem Document.opening_induction {document : Document}
    {motive : List String → Definition → Prop}
    (step : ∀ chain definition,
      (∀ more ref name target,
        chain ⊆ more → definition.Cites ref → document.Resolves ref name target → name ∉ more
        → motive (name :: more) target)
      → motive chain definition)
    (chain : List String) (definition : Definition)
    : motive chain definition := by
  apply step
  intro more ref name target grown _ resolved fresh
  have fewer := Document.closedCount_cons (Document.mem_names_of_get? resolved.2) fresh
  have bounded := document.closedCount_le grown
  exact opening_induction step (name :: more) target
termination_by document.closedCount chain

-----------------------------------------------------------------------------------------
-- The walk, piece by piece
-----------------------------------------------------------------------------------------

/-- The properties among some steps of the walk. -/
def propertiesOf (steps : List Step) : List String :=
  steps.filterMap Step.property?

@[simp] theorem mem_propertiesOf {steps : List Step} {property : String}
    : property ∈ propertiesOf steps ↔ .property property ∈ steps := by
  rw [propertiesOf, List.mem_filterMap]
  constructor
  · rintro ⟨step, member, found⟩
    cases step with
    | property name =>
        cases found
        exact member
    | foreign | unknown | cycle => cases found
  · intro member
    exact ⟨_, member, rfl⟩

@[simp] theorem propertiesOf_append (first second : List Step)
    : propertiesOf (first ++ second) = propertiesOf first ++ propertiesOf second :=
  List.filterMap_append

@[simp] theorem propertiesOf_map_property (names : List String)
    : propertiesOf (names.map Step.property) = names := by
  induction names with
  | nil => rfl
  | cons name rest ih => simpa [propertiesOf, Step.property?] using ih

/-- The steps of the walk at one piece. -/
def Piece.walk (document : Document) (chain : List String) : Piece → List Step
  | .property name => [.property name]
  | .reference ref => Member.walk document chain (.reference ref)

mutual

/-- The walk through a definition goes through its pieces, by induction over the nesting. -/
theorem Definition.walk_eq_pieces (document : Document) (chain : List String)
    (definition : Definition)
    : definition.walk document chain
      = definition.pieces.flatMap (Piece.walk document chain) := by
  rw [Definition.walk, Definition.pieces, List.flatMap_append,
    Member.walkAll_eq_pieces document chain definition.members, List.flatMap_map,
    List.map_eq_flatMap]
  rfl
termination_by sizeOf definition
decreasing_by exact definition.sizeOf_members

theorem Member.walkAll_eq_pieces (document : Document) (chain : List String)
    (members : List Member)
    : Member.walkAll document chain members
      = (Member.piecesOfAll members).flatMap (Piece.walk document chain) := by
  match members with
  | [] => simp [Member.walkAll, Member.piecesOfAll]
  | member :: rest =>
      rw [Member.walkAll, Member.piecesOfAll, List.flatMap_append,
        Member.walk_eq_pieces document chain member,
        Member.walkAll_eq_pieces document chain rest]
termination_by sizeOf members

theorem Member.walk_eq_pieces (document : Document) (chain : List String) (member : Member)
    : member.walk document chain = member.pieces.flatMap (Piece.walk document chain) := by
  match member with
  | .reference ref => simp [Member.pieces, Piece.walk]
  | .inline fragment =>
      rw [Member.walk, Member.pieces, Definition.walk_eq_pieces document chain fragment]
termination_by sizeOf member

end

/-- A reference that resolves to an open name is a cycle. -/
theorem Member.walk_of_open {document : Document} {chain : List String} {ref : Reference}
    {name : String} {target : Definition} (resolved : document.Resolves ref name target)
    (opened : name ∈ chain)
    : Member.walk document chain (.reference ref) = [.cycle name] := by
  obtain ⟨named, found⟩ := resolved
  rw [Member.walk]
  simp only [named]
  split
  · next missing => simp [found] at missing
  · simp [opened]

/-- A reference that resolves to a closed name opens it. -/
theorem Member.walk_of_fresh {document : Document} {chain : List String} {ref : Reference}
    {name : String} {target : Definition} (resolved : document.Resolves ref name target)
    (fresh : name ∉ chain)
    : Member.walk document chain (.reference ref) = target.walk document (name :: chain) := by
  obtain ⟨named, found⟩ := resolved
  rw [Member.walk]
  simp only [named]
  split
  · next missing => simp [found] at missing
  · next other present =>
      cases found.symm.trans present
      simp [fresh]

/-- A reference that does not resolve is the same step whatever is open. -/
theorem Member.walk_of_unresolved {document : Document} {ref : Reference}
    (unresolved : ∀ name target, ¬ document.Resolves ref name target)
    (chain other : List String)
    : Member.walk document chain (.reference ref)
      = Member.walk document other (.reference ref) := by
  rw [Member.walk, Member.walk]
  split
  · rfl
  · next name named =>
      split
      · rfl
      · next target found => exact absurd ⟨named, found⟩ (unresolved name target)

/-- A reference is one step where it does not resolve and where its name is open, and else
all steps behind it.
-/
theorem Member.mem_walk_reference {document : Document} {chain : List String}
    {ref : Reference} {step : Step}
    : step ∈ Member.walk document chain (.reference ref)
      ↔ (ref.target? = none ∧ step = .foreign ref.pointer)
        ∨ (∃ name,
            ref.target? = some name
            ∧ document.get? name = none
            ∧ step = .unknown ref.pointer)
        ∨ (∃ name target,
            document.Resolves ref name target ∧ name ∈ chain ∧ step = .cycle name)
        ∨ ∃ name target,
            document.Resolves ref name target
            ∧ name ∉ chain
            ∧ step ∈ target.walk document (name :: chain) := by
  constructor
  · intro met
    rw [Member.walk] at met
    split at met
    · next foreign => exact .inl ⟨foreign, List.mem_singleton.mp met⟩
    · next name named =>
        split at met
        · next missing => exact .inr (.inl ⟨name, named, missing, List.mem_singleton.mp met⟩)
        · next target found =>
            split at met
            · next opened =>
                exact .inr (.inr (.inl
                  ⟨name, target, ⟨named, found⟩, opened, List.mem_singleton.mp met⟩))
            · next fresh => exact .inr (.inr (.inr ⟨name, target, ⟨named, found⟩, fresh, met⟩))
  · rintro (⟨foreign, rfl⟩ | ⟨name, named, missing, rfl⟩
      | ⟨name, target, resolved, opened, rfl⟩ | ⟨name, target, resolved, fresh, below⟩)
    · simp [Member.walk, foreign]
    · rw [Member.walk]
      simp only [named]
      split
      · exact .head _
      · next found => cases missing.symm.trans found
    · rw [Member.walk_of_open resolved opened]
      exact .head _
    · rwa [Member.walk_of_fresh resolved fresh]

/-- A reference that does not resolve yields no property. -/
theorem Member.property_not_mem_walk_of_unresolved {document : Document}
    {chain : List String} {ref : Reference} {property : String}
    (unresolved : ∀ name target, ¬ document.Resolves ref name target)
    : .property property ∉ Member.walk document chain (.reference ref) := by
  intro met
  rcases Member.mem_walk_reference.mp met with
    ⟨_, same⟩ | ⟨_, _, _, same⟩ | ⟨name, target, resolved, _⟩ | ⟨name, target, resolved, _⟩
  · cases same
  · cases same
  · exact unresolved name target resolved
  · exact unresolved name target resolved

/-- The walk meets the properties that are listed, and what it meets at the references. -/
theorem Definition.mem_walk {document : Document} {chain : List String}
    {definition : Definition} {step : Step}
    : step ∈ definition.walk document chain
      ↔ (∃ property, definition.Lists property ∧ step = .property property)
        ∨ ∃ ref,
            definition.Cites ref ∧ step ∈ Member.walk document chain (.reference ref) := by
  rw [Definition.walk_eq_pieces, List.mem_flatMap]
  constructor
  · rintro ⟨piece, member, met⟩
    cases piece with
    | property name =>
        exact .inl ⟨name, Definition.property_mem_pieces.mp member, List.mem_singleton.mp met⟩
    | reference ref => exact .inr ⟨ref, Definition.reference_mem_pieces.mp member, met⟩
  · rintro (⟨property, listed, rfl⟩ | ⟨ref, cited, met⟩)
    · exact ⟨_, Definition.property_mem_pieces.mpr listed, .head _⟩
    · exact ⟨_, Definition.reference_mem_pieces.mpr cited, met⟩

/-- A property is met where it is listed, or below a reference that opens its definition. -/
theorem Definition.property_mem_walk {document : Document} {chain : List String}
    {definition : Definition} {property : String}
    : .property property ∈ definition.walk document chain
      ↔ definition.Lists property
        ∨ ∃ ref name target,
            definition.Cites ref
            ∧ document.Resolves ref name target
            ∧ name ∉ chain
            ∧ .property property ∈ target.walk document (name :: chain) := by
  rw [Definition.mem_walk]
  constructor
  · rintro (⟨_, listed, same⟩ | ⟨ref, cited, met⟩)
    · cases same
      exact .inl listed
    · rcases Member.mem_walk_reference.mp met with
        ⟨_, same⟩ | ⟨_, _, _, same⟩ | ⟨_, _, _, _, same⟩ | ⟨name, target, resolved, fresh, below⟩
      · cases same
      · cases same
      · cases same
      · exact .inr ⟨ref, name, target, cited, resolved, fresh, below⟩
  · rintro (listed | ⟨ref, name, target, cited, resolved, fresh, below⟩)
    · exact .inl ⟨property, listed, rfl⟩
    · refine .inr ⟨ref, cited, ?_⟩
      rwa [Member.walk_of_fresh resolved fresh]

/-- A cycle is met at a reference to an open name, or below a reference that opens another. -/
theorem Definition.cycle_mem_walk {document : Document} {chain : List String}
    {definition : Definition} {name : String}
    : .cycle name ∈ definition.walk document chain
      ↔ (∃ ref target,
          definition.Cites ref ∧ document.Resolves ref name target ∧ name ∈ chain)
        ∨ ∃ ref next target,
            definition.Cites ref
            ∧ document.Resolves ref next target
            ∧ next ∉ chain
            ∧ .cycle name ∈ target.walk document (next :: chain) := by
  rw [Definition.mem_walk]
  constructor
  · rintro (⟨_, _, same⟩ | ⟨ref, cited, met⟩)
    · cases same
    · rcases Member.mem_walk_reference.mp met with
        ⟨_, same⟩ | ⟨_, _, _, same⟩ | ⟨_, target, resolved, opened, same⟩
          | ⟨next, target, resolved, fresh, below⟩
      · cases same
      · cases same
      · cases same
        exact .inl ⟨ref, target, cited, resolved, opened⟩
      · exact .inr ⟨ref, next, target, cited, resolved, fresh, below⟩
  · rintro (⟨ref, target, cited, resolved, opened⟩
      | ⟨ref, next, target, cited, resolved, fresh, below⟩)
    · refine .inr ⟨ref, cited, ?_⟩
      rw [Member.walk_of_open resolved opened]
      exact .head _
    · refine .inr ⟨ref, cited, ?_⟩
      rwa [Member.walk_of_fresh resolved fresh]

/-- A definition is walked alike if each of its references is. -/
theorem Definition.walk_congr_references {first second : Document} {chain other : List String}
    {definition : Definition}
    (same : ∀ ref,
      definition.Cites ref
      → Member.walk first chain (.reference ref) = Member.walk second other (.reference ref))
    : definition.walk first chain = definition.walk second other := by
  rw [Definition.walk_eq_pieces, Definition.walk_eq_pieces, List.flatMap_def, List.flatMap_def]
  congr 1
  apply List.map_congr_left
  intro piece member
  cases piece with
  | property name => rfl
  | reference ref => exact same ref (Definition.reference_mem_pieces.mp member)

/-- The walk depends only on which of the names within reach are open, by induction over what it
opens.
-/
theorem Definition.walk_congr_open {document : Document} {definition : Definition}
    {chain other : List String}
    (alike : ∀ name,
      document.Leads none definition name → (name ∈ chain ↔ name ∈ other))
    : definition.walk document chain = definition.walk document other := by
  induction chain, definition using document.opening_induction generalizing other with
  | step chain definition ih =>
      apply Definition.walk_congr_references
      intro ref cited
      by_cases resolves : ∃ name target, document.Resolves ref name target
      · obtain ⟨name, target, resolved⟩ := resolves
        have alikeHere := alike name (.direct cited resolved (by simp))
        by_cases opened : name ∈ chain
        · rw [Member.walk_of_open resolved opened,
            Member.walk_of_open resolved (alikeHere.mp opened)]
        · rw [Member.walk_of_fresh resolved opened,
            Member.walk_of_fresh resolved (mt alikeHere.mpr opened)]
          apply ih chain ref name target (List.Subset.refl _) cited resolved opened
          intro last further
          have alikeBelow := alike last (.onward cited resolved (by simp) further)
          simp only [List.mem_cons, alikeBelow]
      · exact Member.walk_of_unresolved (by simpa only [not_exists] using resolves) _ _

end RecordSmith
