import RecordSmith.Proofs.Composition.KeepFirst
import RecordSmith.Proofs.Composition.References

/-! The walk that enters each definition once. It yields the same fields as the walk that enters
a definition again on every path to it: a definition that was left has shown all it has, and
refers only to definitions that were left as well or are still open.
-/

namespace RecordSmith

-----------------------------------------------------------------------------------------
-- A walk that remembers all names it ever entered
-----------------------------------------------------------------------------------------

/-- What a walk yields when some names were entered before it: the properties it meets, and
all names entered before or by it.
-/
structure Visit (entered : List String) where
  properties : List String
  after : List String
  grown : entered ⊆ after

namespace Visit

/-- Meets properties and enters nothing. -/
def meet (entered properties : List String) : Visit entered :=
  ⟨properties, entered, List.Subset.refl _⟩

/-- One visit after the other. -/
def andThen {entered : List String} (first : Visit entered) (second : Visit first.after)
    : Visit entered :=
  ⟨first.properties ++ second.properties, second.after,
    List.Subset.trans first.grown second.grown⟩

/-- A visit to a definition that was entered by its name. -/
def under {entered : List String} (name : String) (inside : Visit (name :: entered))
    : Visit entered :=
  ⟨inside.properties, inside.after,
    List.Subset.trans (List.subset_cons_self name entered) inside.grown⟩

/-- After a visit to the first member, less is left to do for the rest: no fewer names are
entered, and the list is shorter.
-/
theorem rest_lt {entered : List String} (first : Visit entered) (document : Document)
    (member : Member) (rest : List Member)
    : Prod.Lex (· < ·) (· < ·) (document.closedCount first.after, sizeOf rest)
        (document.closedCount entered, sizeOf (member :: rest)) := by
  have shorter : sizeOf rest < sizeOf (member :: rest) := by
    simp only [List.cons.sizeOf_spec]
    omega
  rcases Nat.lt_or_eq_of_le (document.closedCount_le first.grown) with fewer | same
  · exact Prod.Lex.left _ _ fewer
  · rw [same]
    exact Prod.Lex.right _ shorter

end Visit

mutual

/-- Visits a definition: its members, then its own properties. -/
def Definition.visit (document : Document) (entered : List String) (definition : Definition)
    : Visit entered :=
  let below := Member.visitAll document entered definition.members
  below.andThen (.meet below.after definition.propertyNames)
termination_by (document.closedCount entered, sizeOf definition)
decreasing_by exact Prod.Lex.right _ definition.sizeOf_members

/-- Visits the members of a composition list. Each finds entered what the ones before it
entered.
-/
def Member.visitAll (document : Document) (entered : List String)
    : List Member → Visit entered
  | [] => .meet entered []
  | member :: rest =>
      let first := Member.visit document entered member
      first.andThen (Member.visitAll document first.after rest)
termination_by members => (document.closedCount entered, sizeOf members)
decreasing_by
  · apply Prod.Lex.right
    simp only [List.cons.sizeOf_spec]
    omega
  · exact first.rest_lt document member rest

/-- Visits a member. A reference enters the definition that it names, if there is one and it
was never entered.
-/
def Member.visit (document : Document) (entered : List String) (member : Member)
    : Visit entered :=
  match member with
  | .inline fragment => fragment.visit document entered
  | .reference ref =>
      match ref.target? with
      | none => .meet entered []
      | some name =>
          match found : document.get? name with
          | none => .meet entered []
          | some definition =>
              if before : name ∈ entered then .meet entered []
              else
                have := Document.closedCount_cons (Document.mem_names_of_get? found) before
                .under name (definition.visit document (name :: entered))
termination_by (document.closedCount entered, sizeOf member)
decreasing_by
  · apply Prod.Lex.right
    simp
  · exact Prod.Lex.left _ _ this

end

theorem Member.visit_of_unresolved {document : Document} {entered : List String}
    {ref : Reference} (unresolved : ∀ name target, ¬ document.Resolves ref name target)
    : Member.visit document entered (.reference ref) = .meet entered [] := by
  rw [Member.visit]
  split
  · rfl
  · next name named =>
      split
      · rfl
      · next target found => exact absurd ⟨named, found⟩ (unresolved name target)

/-- A reference to a name that was entered is passed over. -/
theorem Member.visit_of_entered {document : Document} {entered : List String}
    {ref : Reference} {name : String} {target : Definition}
    (resolved : document.Resolves ref name target) (before : name ∈ entered)
    : Member.visit document entered (.reference ref) = .meet entered [] := by
  obtain ⟨named, found⟩ := resolved
  rw [Member.visit]
  simp only [named]
  split
  · rfl
  · simp [before]

/-- A reference to a name that was never entered enters it. -/
theorem Member.visit_of_fresh {document : Document} {entered : List String}
    {ref : Reference} {name : String} {target : Definition}
    (resolved : document.Resolves ref name target) (fresh : name ∉ entered)
    : Member.visit document entered (.reference ref)
      = .under name (target.visit document (name :: entered)) := by
  obtain ⟨named, found⟩ := resolved
  rw [Member.visit]
  simp only [named]
  split
  · next missing => simp [found] at missing
  · next other present =>
      cases found.symm.trans present
      simp [fresh]

/-- The fields of a definition when each definition is entered once. -/
def Definition.fieldsByVisit (document : Document) (seed : Option String)
    (definition : Definition)
    : List String :=
  keepFirst (definition.visit document (seedChain seed)).properties

-----------------------------------------------------------------------------------------
-- Definitions that were left have nothing new to show
-----------------------------------------------------------------------------------------

/-- Some pieces show nothing new: their properties are known, and all that they refer to was
entered.
-/
structure Covered (document : Document) (entered known : List String) (pieces : List Piece)
    : Prop where
  properties : ∀ property, .property property ∈ pieces → property ∈ known
  references
    : ∀ ref name target,
        .reference ref ∈ pieces → document.Resolves ref name target → name ∈ entered

theorem Covered.mono {document : Document} {entered known later more : List String}
    {pieces : List Piece} (covered : Covered document entered known pieces)
    (grown : entered ⊆ later) (learned : known ⊆ more)
    : Covered document later more pieces where
  properties property member := learned (covered.properties property member)
  references ref name target member resolved :=
    grown (covered.references ref name target member resolved)

theorem Covered.append {document : Document} {entered known : List String}
    {first second : List Piece} (front : Covered document entered known first)
    (back : Covered document entered known second)
    : Covered document entered known (first ++ second) where
  properties property member := by
    rcases List.mem_append.mp member with inFirst | inSecond
    · exact front.properties property inFirst
    · exact back.properties property inSecond
  references ref name target member resolved := by
    rcases List.mem_append.mp member with inFirst | inSecond
    · exact front.references ref name target inFirst resolved
    · exact back.references ref name target inSecond resolved

/-- Every entered definition is open or was left, and one that was left shows nothing new. -/
structure Settled (document : Document) (chain entered known : List String) : Prop where
  opened : chain ⊆ entered
  left
    : ∀ name definition,
        name ∈ entered → name ∉ chain → document.get? name = some definition
        → Covered document entered known definition.pieces

/-- Opening a definition that was not entered leaves the others as they are. -/
theorem Settled.enter {document : Document} {chain entered known : List String}
    (settled : Settled document chain entered known) (name : String)
    : Settled document (name :: chain) (name :: entered) known where
  opened := List.cons_subset_cons name settled.opened
  left other definition member closed found := by
    have notSame : other ≠ name := fun same => closed (same ▸ List.mem_cons_self)
    have notOpen : other ∉ chain := fun opened => closed (List.mem_cons_of_mem _ opened)
    have before : other ∈ entered := List.mem_of_ne_of_mem notSame member
    exact (settled.left other definition before notOpen found).mono
      (List.subset_cons_self name entered) (List.Subset.refl _)

/-- A definition that shows nothing new can be closed. -/
theorem Settled.leave {document : Document} {chain entered known : List String}
    {name : String} {target : Definition}
    (settled : Settled document (name :: chain) entered known)
    (found : document.get? name = some target)
    (covered : Covered document entered known target.pieces)
    : Settled document chain entered known where
  opened := List.Subset.trans (List.subset_cons_self name chain) settled.opened
  left other definition member closed otherFound := by
    by_cases same : other = name
    · subst same
      cases found.symm.trans otherFound
      exact covered
    · exact settled.left other definition member (by simp [same, closed]) otherFound

/-- Walking again through what shows nothing new meets known properties only, whatever else is
open by then. Witness: a reference that is not open leads to a definition that was left.
-/
theorem Settled.property_known {document : Document} {chain entered known : List String}
    (settled : Settled document chain entered known) {later : List String}
    {definition : Definition} (grown : chain ⊆ later)
    (covered : Covered document entered known definition.pieces) {property : String}
    (met : .property property ∈ definition.walk document later)
    : property ∈ known := by
  induction later, definition using document.opening_induction with
  | step later definition ih =>
      rcases Definition.property_mem_walk.mp met with
        listed | ⟨ref, name, target, cited, resolved, fresh, below⟩
      · exact covered.properties property (Definition.property_mem_pieces.mpr listed)
      · have before : name ∈ entered :=
          covered.references ref name target (Definition.reference_mem_pieces.mpr cited) resolved
        have closed : name ∉ chain := fun opened => fresh (grown opened)
        exact ih later ref name target (List.Subset.refl _) cited resolved fresh
          (List.Subset.trans grown (List.subset_cons_self name later))
          (settled.left name target before closed resolved.2) below

-----------------------------------------------------------------------------------------
-- Both walks side by side
-----------------------------------------------------------------------------------------

/-- The visit keeps up with the steps of the walk through some pieces: after the known
properties both keep the same new ones, and afterwards these pieces and all definitions that
were left show nothing new.
-/
structure Visit.KeepsUp {entered : List String} (visit : Visit entered) (document : Document)
    (chain known : List String) (pieces : List Piece) (steps : List Step)
    : Prop where
  same : keepFirst (known ++ propertiesOf steps) = keepFirst (known ++ visit.properties)
  settled : Settled document chain visit.after (known ++ visit.properties)
  covered : Covered document visit.after (known ++ visit.properties) pieces

section

variable {document : Document} {chain entered known : List String}

/-- When nothing was known, both walks keep the same properties. -/
theorem Visit.KeepsUp.keepFirst_eq {visit : Visit entered} {pieces : List Piece}
    {steps : List Step} (keepsUp : visit.KeepsUp document chain [] pieces steps)
    : keepFirst (propertiesOf steps) = keepFirst visit.properties := by
  simpa only [List.nil_append] using keepsUp.same

theorem Visit.KeepsUp.meet (settled : Settled document chain entered known)
    (names : List String)
    : (Visit.meet entered names).KeepsUp document chain known (names.map Piece.property)
        (names.map Step.property) where
  same := by rw [propertiesOf_map_property, Visit.meet]
  settled := {
    opened := settled.opened
    left := fun name definition before closed found =>
      (settled.left name definition before closed found).mono (List.Subset.refl _)
        (List.subset_append_left known names)
  }
  covered := {
    properties := by
      intro property member
      have listed : property ∈ names := by simpa using member
      exact List.mem_append_right known listed
    references := by simp
  }

/-- Two visits one after the other keep up with both walks one after the other. -/
theorem Visit.KeepsUp.andThen {first : Visit entered} {second : Visit first.after}
    {pieces others : List Piece} {steps more : List Step}
    (front : first.KeepsUp document chain known pieces steps)
    (back : second.KeepsUp document chain (known ++ first.properties) others more)
    : (first.andThen second).KeepsUp document chain known (pieces ++ others)
        (steps ++ more) := by
  have learned : known ++ first.properties ++ second.properties
      = known ++ (first.andThen second).properties := List.append_assoc _ _ _
  refine ⟨?_, learned ▸ back.settled, ?_⟩
  · calc keepFirst (known ++ propertiesOf (steps ++ more))
        = keepFirst (known ++ propertiesOf steps ++ propertiesOf more) := by
          rw [propertiesOf_append, List.append_assoc]
      _ = keepFirst (known ++ first.properties ++ propertiesOf more) :=
          keepFirst_append_congr_left front.same _
      _ = keepFirst (known ++ first.properties ++ second.properties) := back.same
      _ = keepFirst (known ++ (first.andThen second).properties) := by rw [learned]
  · have frontCovered := front.covered.mono second.grown
      (List.subset_append_left (known ++ first.properties) second.properties)
    exact learned ▸ frontCovered.append back.covered

/-- A reference can be passed over when its walk meets known properties only and what it
resolves to was entered.
-/
theorem Visit.KeepsUp.pass (settled : Settled document chain entered known)
    {ref : Reference} {steps : List Step} (nothing : propertiesOf steps ⊆ known)
    (entries : ∀ name target, document.Resolves ref name target → name ∈ entered)
    : (Visit.meet entered []).KeepsUp document chain known [.reference ref] steps := by
  have unchanged : known ++ (Visit.meet entered []).properties = known := List.append_nil known
  refine ⟨?_, unchanged.symm ▸ settled, ?_⟩
  · rw [unchanged, keepFirst_append_of_subset nothing]
  · refine ⟨by simp, ?_⟩
    intro other name target member resolved
    cases List.mem_singleton.mp member
    exact entries name target resolved

/-- A reference to what was entered can be passed over. Its definition is still open, which
is a cycle, or was left, and then a second walk through it meets nothing new.
-/
theorem Visit.KeepsUp.pass_entered (settled : Settled document chain entered known)
    {ref : Reference} {name : String} {target : Definition}
    (resolved : document.Resolves ref name target) (before : name ∈ entered)
    : (Visit.meet entered []).KeepsUp document chain known [.reference ref]
        (Member.walk document chain (.reference ref)) := by
  apply Visit.KeepsUp.pass settled
  · intro property met
    rw [mem_propertiesOf] at met
    by_cases opened : name ∈ chain
    · simp [Member.walk_of_open resolved opened] at met
    · rw [Member.walk_of_fresh resolved opened] at met
      exact settled.property_known (List.subset_cons_self name chain)
        (settled.left name target before opened resolved.2) met
  · intro other otherTarget again
    rwa [← (resolved.unique again).1]

/-- A reference that resolves to nothing can be passed over. -/
theorem Visit.KeepsUp.pass_unresolved (settled : Settled document chain entered known)
    {ref : Reference} (unresolved : ∀ name target, ¬ document.Resolves ref name target)
    : (Visit.meet entered []).KeepsUp document chain known [.reference ref]
        (Member.walk document chain (.reference ref)) := by
  apply Visit.KeepsUp.pass settled
  · intro property met
    exact absurd (mem_propertiesOf.mp met)
      (Member.property_not_mem_walk_of_unresolved unresolved)
  · intro name target resolved
    exact absurd resolved (unresolved name target)

/-- Both walks enter a definition that was never entered. -/
theorem Visit.KeepsUp.under (opened : chain ⊆ entered) {ref : Reference} {name : String}
    {target : Definition} (resolved : document.Resolves ref name target)
    (fresh : name ∉ entered) {inside : Visit (name :: entered)}
    (below : inside.KeepsUp document (name :: chain) known target.pieces
      (target.walk document (name :: chain)))
    : (inside.under name).KeepsUp document chain known [.reference ref]
        (Member.walk document chain (.reference ref)) where
  same := by
    rw [Member.walk_of_fresh resolved (fun member => fresh (opened member))]
    exact below.same
  settled := below.settled.leave resolved.2 below.covered
  covered := by
    refine ⟨by simp, ?_⟩
    intro other otherName otherTarget member again
    cases List.mem_singleton.mp member
    rw [← (resolved.unique again).1]
    exact inside.grown List.mem_cons_self

end

/-- Visits keep up with walks, whatever is open, entered and known, as long as that is
settled. Witness: induction over the visit.
-/
theorem Definition.visit_keepsUp (document : Document) (entered : List String)
    (definition : Definition)
    : ∀ chain known,
        Settled document chain entered known
        → (definition.visit document entered).KeepsUp document chain known definition.pieces
            (definition.walk document chain) := by
  refine (Definition.visit.mutual_induct document
    (fun entered definition =>
      ∀ chain known,
        Settled document chain entered known
        → (definition.visit document entered).KeepsUp document chain known definition.pieces
            (definition.walk document chain))
    (fun entered members =>
      ∀ chain known,
        Settled document chain entered known
        → (Member.visitAll document entered members).KeepsUp document chain known
            (Member.piecesOfAll members) (Member.walkAll document chain members))
    (fun entered member =>
      ∀ chain known,
        Settled document chain entered known
        → (member.visit document entered).KeepsUp document chain known member.pieces
            (member.walk document chain))
    ?_ ?_ ?_ ?_ ?_ ?_ ?_ ?_).1 entered definition
  -- A definition: its members, then its own properties.
  · intro entered definition ih chain known settled
    have below := ih chain known settled
    rw [Definition.visit, Definition.pieces, Definition.walk]
    exact below.andThen (.meet below.settled definition.propertyNames)
  -- A list of members: none, or the first and then the rest.
  · intro entered chain known settled
    rw [Member.visitAll, Member.piecesOfAll, Member.walkAll]
    exact .meet settled []
  · intro entered member rest first ihFirst ihRest chain known settled
    have front := ihFirst chain known settled
    rw [Member.visitAll, Member.piecesOfAll, Member.walkAll]
    exact front.andThen (ihRest chain _ front.settled)
  -- A member: an inline fragment, or one of the four fates of a reference.
  · intro entered fragment ih chain known settled
    rw [Member.visit, Member.pieces, Member.walk]
    exact ih chain known settled
  · intro entered ref foreign chain known settled
    have unresolved : ∀ name target, ¬ document.Resolves ref name target := by
      simp [Document.Resolves, foreign]
    rw [Member.visit_of_unresolved unresolved, Member.pieces]
    exact .pass_unresolved settled unresolved
  · intro entered ref name named missing chain known settled
    have unresolved : ∀ other target, ¬ document.Resolves ref other target := by
      rintro other target ⟨otherNamed, found⟩
      cases named.symm.trans otherNamed
      simp [missing] at found
    rw [Member.visit_of_unresolved unresolved, Member.pieces]
    exact .pass_unresolved settled unresolved
  · intro entered ref name named target found before chain known settled
    rw [Member.visit_of_entered ⟨named, found⟩ before, Member.pieces]
    exact .pass_entered settled ⟨named, found⟩ before
  · intro entered ref name named target found fresh _ ih chain known settled
    rw [Member.visit_of_fresh ⟨named, found⟩ fresh, Member.pieces]
    exact .under settled.opened ⟨named, found⟩ fresh (ih _ known (settled.enter name))

/-- Before a walk starts, what is open is all that was entered, and nothing was left. -/
theorem Settled.start (document : Document) (chain : List String)
    : Settled document chain chain [] where
  opened := List.Subset.refl chain
  left _ _ before closed _ := absurd before closed

/-- The visit from the start keeps up with the walk from the start. -/
theorem Definition.visit_keepsUp_start (document : Document) (seed : Option String)
    (definition : Definition)
    : (definition.visit document (seedChain seed)).KeepsUp document (seedChain seed) []
        definition.pieces (definition.walk document (seedChain seed)) :=
  definition.visit_keepsUp document _ _ _ (.start document _)

/-- A definition has the same fields in the same order whether definitions are entered on
every path or only once: entering one again under another chain adds nothing.
-/
theorem Definition.fields_eq_fieldsByVisit (document : Document) (seed : Option String)
    (definition : Definition)
    : definition.fields document seed = definition.fieldsByVisit document seed :=
  (definition.visit_keepsUp_start document seed).keepFirst_eq

/-- Three definitions on cycles that overlap: A with B, B with C, and all three. -/
def knot : Document where
  definitions :=
    [("A", linked "a" ["B"]), ("B", linked "b" ["A", "C"]), ("C", linked "c" ["B", "A"])]
  distinct := by decide

example
    : (linked "d" ["A", "C"]).metProperties knot (some "D")
        = ["c", "b", "a", "a", "b", "b", "a", "c", "d"]
      ∧ ((linked "d" ["A", "C"]).visit knot (seedChain (some "D"))).properties
        = ["c", "b", "a", "d"]
      ∧ (linked "d" ["A", "C"]).fields knot (some "D") = ["c", "b", "a", "d"] := by
  cbv

end RecordSmith
