import Mathlib.Data.List.Basic
import RecordSmith.Proofs.Composition.CycleWarnings

/-! References that lead nowhere. The log tells each of them, and without them the walks take their
other steps in the same order, so that the output stays the same.
-/

namespace RecordSmith

-----------------------------------------------------------------------------------------
-- Deleting references
-----------------------------------------------------------------------------------------

/-- The reference is not local, or it names no definition of the document. -/
def Document.Dangling (document : Document) (ref : Reference) : Prop :=
  ref.target? = none ∨ ∃ name, ref.target? = some name ∧ document.get? name = none

theorem Document.not_dangling_iff {document : Document} {ref : Reference}
    : ¬ document.Dangling ref ↔ ∃ name target, document.Resolves ref name target := by
  unfold Document.Dangling Document.Resolves
  cases ref.target? with
  | none => simp
  | some name => cases found : document.get? name <;> simp [found]

instance Document.decidableDangling (document : Document) (ref : Reference)
    : Decidable (document.Dangling ref) :=
  decidable_of_iff (ref.target?.bind document.get? = none) (by
    unfold Document.Dangling
    cases ref.target? <;> simp)

mutual

/-- The definition without its dangling references, at any inline depth. Composition lists stay,
even if they become empty.
-/
def Definition.pruned (document : Document) : Definition → Definition
  | ⟨description, properties, none⟩ => ⟨description, properties, none⟩
  | ⟨description, properties, some members⟩ =>
      ⟨description, properties, some (Member.prunedAll document members)⟩

/-- The members of a composition list without the dangling references. -/
def Member.prunedAll (document : Document) : List Member → List Member
  | [] => []
  | .reference ref :: rest =>
      if document.Dangling ref then Member.prunedAll document rest
      else .reference ref :: Member.prunedAll document rest
  | .inline fragment :: rest =>
      .inline (fragment.pruned document) :: Member.prunedAll document rest

end

/-- The document without its dangling references. -/
def Document.pruned (document : Document) : Document where
  definitions := document.definitions.map fun entry => (entry.1, entry.2.pruned document)
  distinct := by
    have names := document.distinct
    simpa [Entries.names, Function.comp_def] using names

section

variable (document : Document) (definition : Definition)

theorem Definition.pruned_eq
    : definition.pruned document
      = { definition with
          composition := definition.composition.map (Member.prunedAll document) } := by
  obtain ⟨description, properties, composition⟩ := definition
  cases composition <;> simp [Definition.pruned]

theorem Definition.members_pruned
    : (definition.pruned document).members = Member.prunedAll document definition.members := by
  rw [Definition.pruned_eq, Definition.members, Definition.members]
  cases definition.composition <;> simp [Member.prunedAll]

theorem Definition.propertyNames_pruned
    : (definition.pruned document).propertyNames = definition.propertyNames := by
  rw [Definition.pruned_eq]
  rfl

theorem Definition.isRecord_pruned
    : (definition.pruned document).isRecord = definition.isRecord := by
  rw [Definition.pruned_eq]
  simp [Definition.isRecord]

end

theorem Document.get?_pruned (document : Document) (name : String)
    : document.pruned.get? name = (document.get? name).map (·.pruned document) :=
  Entries.find?_map name _ document.definitions

theorem Document.Resolves.pruned {document : Document} {ref : Reference} {name : String}
    {target : Definition} (resolved : document.Resolves ref name target)
    : document.pruned.Resolves ref name (target.pruned document) := by
  refine ⟨resolved.1, ?_⟩
  rw [document.get?_pruned, resolved.2, Option.map_some]

mutual

theorem Definition.caption_pruned (document : Document) (definition : Definition)
    : (definition.pruned document).caption = definition.caption := by
  have smaller := definition.sizeOf_members
  have description : (definition.pruned document).description = definition.description := by
    rw [Definition.pruned_eq]
  rw [Definition.caption, Definition.caption, description, Definition.members_pruned,
    Member.firstCaption_pruned document definition.members]
termination_by sizeOf definition

theorem Member.firstCaption_pruned (document : Document) (members : List Member)
    : Member.firstCaption (Member.prunedAll document members) = Member.firstCaption members := by
  match members with
  | [] => rw [Member.prunedAll]
  | .reference ref :: rest =>
      have later := Member.firstCaption_pruned document rest
      rw [Member.prunedAll, Member.firstCaption]
      split
      · exact later
      · rw [Member.firstCaption, later]
  | .inline fragment :: rest =>
      rw [Member.prunedAll, Member.firstCaption, Member.firstCaption,
        Definition.caption_pruned document fragment, Member.firstCaption_pruned document rest]
termination_by sizeOf members

end

-----------------------------------------------------------------------------------------
-- Walks
-----------------------------------------------------------------------------------------

/-- The piece is no dangling reference. -/
def Piece.lands (document : Document) : Piece → Bool
  | .property _ => true
  | .reference ref => !document.Dangling ref

mutual

/-- Pruning deletes the dangling references among the pieces, by induction over the nesting. -/
theorem Definition.pieces_pruned (document : Document) (definition : Definition)
    : (definition.pruned document).pieces = definition.pieces.filter (Piece.lands document) := by
  have smaller := definition.sizeOf_members
  have own : (definition.propertyNames.map Piece.property).filter (Piece.lands document)
      = definition.propertyNames.map Piece.property := by
    rw [List.filter_eq_self, List.forall_mem_map]
    exact fun _ _ => rfl
  rw [Definition.pieces, Definition.pieces, Definition.members_pruned,
    Definition.propertyNames_pruned, Member.piecesOfAll_pruned document definition.members,
    List.filter_append, own]
termination_by sizeOf definition

theorem Member.piecesOfAll_pruned (document : Document) (members : List Member)
    : Member.piecesOfAll (Member.prunedAll document members)
      = (Member.piecesOfAll members).filter (Piece.lands document) := by
  match members with
  | [] => simp [Member.prunedAll, Member.piecesOfAll]
  | .reference ref :: rest =>
      have later := Member.piecesOfAll_pruned document rest
      by_cases dangling : document.Dangling ref <;>
        simp [Member.prunedAll, Member.piecesOfAll, Member.pieces, Piece.lands, dangling, later]
  | .inline fragment :: rest =>
      rw [Member.prunedAll, Member.piecesOfAll, Member.piecesOfAll, Member.pieces, Member.pieces,
        Definition.pieces_pruned document fragment, Member.piecesOfAll_pruned document rest,
        List.filter_append]
termination_by sizeOf members

end

/-- The pointer of a step at a reference that leads nowhere. -/
def Step.pointer? : Step → Option String
  | .foreign pointer => some pointer
  | .unknown pointer => some pointer
  | .property _ => none
  | .cycle _ => none

theorem Member.walk_of_dangling {document : Document} {ref : Reference}
    (dangling : document.Dangling ref) (chain : List String)
    : ∃ step,
        Member.walk document chain (.reference ref) = [step]
        ∧ step.pointer? = some ref.pointer := by
  rw [Member.walk]
  rcases dangling with foreign | ⟨name, named, missing⟩
  · exact ⟨.foreign ref.pointer, by simp only [foreign], rfl⟩
  · refine ⟨.unknown ref.pointer, ?_, rfl⟩
    simp only [named]
    split
    · rfl
    · next found => cases missing.symm.trans found

theorem flatMap_filter {α β : Type} (keep : α → Bool) (steps : α → List β) (list : List α)
    : (list.filter keep).flatMap steps
      = list.flatMap fun a => if keep a then steps a else [] := by
  induction list with
  | nil => rfl
  | cons a rest ih => by_cases kept : keep a <;> simp [kept, ih]

/-- The walk of a pruned definition leaves out the steps at references that lead nowhere, by
induction over what the walk opens.
-/
theorem Definition.walk_pruned {document : Document} {chain : List String}
    {definition : Definition}
    : (definition.pruned document).walk document.pruned chain
      = (definition.walk document chain).filter (·.pointer?.isNone) := by
  induction chain, definition using document.opening_induction with
  | step chain definition ih =>
      rw [Definition.walk_eq_pieces, Definition.walk_eq_pieces, Definition.pieces_pruned,
        List.filter_flatMap, flatMap_filter]
      apply List.flatMap_congr
      intro piece member
      cases piece with
      | property name => rfl
      | reference ref =>
          by_cases dangling : document.Dangling ref
          · obtain ⟨step, alone, about⟩ := Member.walk_of_dangling dangling chain
            rw [if_neg (by simpa [Piece.lands] using dangling), Piece.walk, alone]
            simp [about]
          · obtain ⟨name, target, resolved⟩ := Document.not_dangling_iff.mp dangling
            rw [if_pos (by simpa [Piece.lands] using dangling), Piece.walk, Piece.walk]
            by_cases opened : name ∈ chain
            · rw [Member.walk_of_open resolved.pruned opened, Member.walk_of_open resolved opened]
              rfl
            · rw [Member.walk_of_fresh resolved.pruned opened,
                Member.walk_of_fresh resolved opened]
              exact ih chain ref name target (List.Subset.refl _)
                (Definition.reference_mem_pieces.mp member) resolved opened

-----------------------------------------------------------------------------------------
-- Outputs
-----------------------------------------------------------------------------------------

theorem Definition.metProperties_pruned (document : Document) (seed : Option String)
    (definition : Definition)
    : (definition.pruned document).metProperties document.pruned seed
      = definition.metProperties document seed := by
  rw [Definition.metProperties, Definition.metProperties, Definition.walk_pruned,
    List.filterMap_filter]
  apply List.filterMap_congr
  intro step _
  cases step <;> rfl

theorem Definition.declaration?_pruned (document : Document) (name : String)
    (definition : Definition)
    : (definition.pruned document).declaration? document.pruned name
      = definition.declaration? document name := by
  unfold Definition.declaration? Definition.fields Definition.comment
  rw [Definition.isRecord_pruned, Definition.caption_pruned, Definition.metProperties_pruned]

theorem Document.declarations_pruned (document : Document)
    : document.pruned.declarations = document.declarations := by
  unfold Document.declarations Document.pruned
  rw [List.filterMap_map]
  apply List.filterMap_congr
  intro entry _
  exact Definition.declaration?_pruned document entry.1 entry.2

theorem Document.skipped_pruned (document : Document)
    : document.pruned.skipped = document.skipped := by
  simp [Document.skipped, Document.pruned, Entries.names, List.filter_map, Function.comp_def,
    Definition.isRecord_pruned]

theorem generate_pruned (document : Document) (target : Target)
    : generate document.pruned target = generate document target := by
  rw [generate, generate, Document.declarations_pruned, Document.skipped_pruned]

-----------------------------------------------------------------------------------------
-- Events
-----------------------------------------------------------------------------------------

/-- The pointer that an event is about, where it is about one. -/
def Event.pointer? : Event → Option String
  | .foreignReference pointer => some pointer
  | .unknownReference pointer => some pointer
  | .skipped _ | .cycle _ | .generated .. => none

theorem Definition.events_pruned (document : Document) (name : String)
    (definition : Definition)
    : (definition.pruned document).events document.pruned name
      = (definition.events document name).filter (·.severity ≠ .debug) := by
  unfold Definition.events
  rw [Definition.isRecord_pruned]
  split
  · rw [Definition.walk_pruned, List.filterMap_filter, List.filter_filterMap]
    apply List.filterMap_congr
    intro step _
    cases step <;> rfl
  · rfl

theorem Document.events_eq (document : Document) (target : Target)
    : document.events target
      = (document.definitions.flatMap fun entry => entry.2.events document entry.1)
        ++ [.generated target (generate document target).recordCount
            (generate document target).skipped.length (generate document target).checksum] :=
  rfl

theorem Document.events_pruned (document : Document) (target : Target)
    : document.pruned.events target
      = (document.events target).filter (·.severity ≠ .debug) := by
  have ofDefinitions
      : (document.pruned.definitions.flatMap fun entry =>
          entry.2.events document.pruned entry.1)
        = (document.definitions.flatMap fun entry =>
            entry.2.events document entry.1).filter (·.severity ≠ .debug) := by
    rw [List.filter_flatMap, Document.pruned, List.flatMap_map]
    apply List.flatMap_congr
    intro entry _
    exact Definition.events_pruned document entry.1 entry.2
  rw [Document.events_eq, Document.events_eq, List.filter_append, ofDefinitions, generate_pruned]
  rfl

/-- All dangling references that a walk comes upon stand in definitions of the document, by
induction over what the walk opens.
-/
theorem Definition.exists_dangling_of_mem_walk {document : Document} {chain : List String}
    {owner : String} {definition : Definition} {step : Step} {pointer : String}
    (found : document.get? owner = some definition)
    (met : step ∈ definition.walk document chain) (about : step.pointer? = some pointer)
    : ∃ name own ref,
        document.get? name = some own
        ∧ own.Cites ref
        ∧ document.Dangling ref
        ∧ ref.pointer = pointer := by
  induction chain, definition using document.opening_induction generalizing owner with
  | step chain definition ih =>
      rcases Definition.mem_walk.mp met with ⟨_, _, rfl⟩ | ⟨ref, cited, metThere⟩
      · cases about
      · by_cases dangling : document.Dangling ref
        · obtain ⟨only, alone, pointed⟩ := Member.walk_of_dangling dangling chain
          rw [alone, List.mem_singleton] at metThere
          subst metThere
          exact ⟨owner, definition, ref, found, cited, dangling,
            Option.some.inj (pointed.symm.trans about)⟩
        · obtain ⟨name, target, resolved⟩ := Document.not_dangling_iff.mp dangling
          by_cases opened : name ∈ chain
          · rw [Member.walk_of_open resolved opened, List.mem_singleton] at metThere
            subst metThere
            cases about
          · rw [Member.walk_of_fresh resolved opened] at metThere
            exact ih chain ref name target (List.Subset.refl _) cited resolved opened resolved.2
              metThere

theorem Definition.Cites.exists_step {document : Document} {definition : Definition}
    {ref : Reference} (cited : definition.Cites ref) (dangling : document.Dangling ref)
    (chain : List String)
    : ∃ step ∈ definition.walk document chain, step.pointer? = some ref.pointer := by
  obtain ⟨step, alone, about⟩ := Member.walk_of_dangling dangling chain
  refine ⟨step, Definition.mem_walk.mpr (.inr ⟨ref, cited, ?_⟩), about⟩
  rw [alone]
  exact .head _

theorem Step.exists_event {step : Step} {pointer : String}
    (about : step.pointer? = some pointer)
    : ∃ event,
        step.event? = some event
        ∧ event.severity = .debug
        ∧ event.pointer? = some pointer := by
  cases step with
  | foreign other => exact ⟨_, rfl, rfl, about⟩
  | unknown other => exact ⟨_, rfl, rfl, about⟩
  | property | cycle => cases about

theorem Step.pointer?_of_event {step : Step} {event : Event}
    (told : step.event? = some event)
    : step.pointer? = event.pointer? := by
  cases step with
  | property => cases told
  | foreign | unknown | cycle =>
      cases told
      rfl

/-- The debug events carry exactly the pointers of the dangling references that stand in the
definitions at any inline depth. Deleting these references leaves the output as it is, and of the
log everything but the debug events.
-/
theorem Document.dangling_only_told (document : Document) (target : Target)
    : (∀ pointer,
        (∃ event ∈ document.events target,
          event.severity = .debug ∧ event.pointer? = some pointer)
        ↔ ∃ name definition ref,
            document.get? name = some definition
            ∧ definition.Cites ref
            ∧ document.Dangling ref
            ∧ ref.pointer = pointer)
      ∧ generate document.pruned target = generate document target
      ∧ document.pruned.events target
        = (document.events target).filter (·.severity ≠ .debug)
      ∧ ¬ ∃ event ∈ document.pruned.events target, event.severity = .debug := by
  refine ⟨?_, generate_pruned document target, document.events_pruned target, ?_⟩
  · intro pointer
    constructor
    · rintro ⟨event, told, _, about⟩
      rcases Document.mem_events.mp told with
        ⟨_, _, _, _, rfl⟩ | ⟨owner, definition, step, found, _, met, same⟩ | rfl
      · cases about
      · exact Definition.exists_dangling_of_mem_walk found met
          ((Step.pointer?_of_event same).trans about)
      · cases about
    · rintro ⟨name, definition, ref, found, cited, dangling, rfl⟩
      obtain ⟨step, met, about⟩ := cited.exists_step dangling (seedChain (some name))
      obtain ⟨event, same, severity, carried⟩ := Step.exists_event about
      refine ⟨event, Document.mem_events.mpr (.inr (.inl ?_)), severity, carried⟩
      exact ⟨name, definition, step, found, cited.isRecord, met, same⟩
  · rintro ⟨event, told, severity⟩
    rw [Document.events_pruned, List.mem_filter] at told
    simp [severity] at told

end RecordSmith
