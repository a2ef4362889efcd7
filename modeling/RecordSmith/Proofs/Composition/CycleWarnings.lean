import RecordSmith.Output
import RecordSmith.Proofs.Composition.References

/-! Warnings about reference cycles name exactly the definitions that lie on one. A refused
name closes a cycle, because every open name leads wherever the walk can go from here. Conversely
the walk of a definition on a cycle can follow the cycle, cut short at each return to a name, up
to the reference back to its start.
-/

namespace RecordSmith

-----------------------------------------------------------------------------------------
-- A refused name lies on a cycle
-----------------------------------------------------------------------------------------

/-- All open names have definitions, which lead wherever the definition at hand leads. -/
def Document.OpenTowards (document : Document) (chain : List String)
    (definition : Definition)
    : Prop :=
  ∀ name ∈ chain,
    ∃ own,
      document.get? name = some own
      ∧ ∀ last, document.Leads none definition last → document.Leads none own last

theorem Document.openTowards_seed {document : Document} {name : String}
    {definition : Definition} (found : document.get? name = some definition)
    : document.OpenTowards (seedChain (some name)) definition := by
  intro other member
  cases List.mem_singleton.mp member
  exact ⟨definition, found, fun _ leads => leads⟩

/-- Opening a reference keeps all open names on the way, by one more step of their chains. -/
theorem Document.OpenTowards.enter {document : Document} {chain : List String}
    {definition target : Definition} {ref : Reference} {name : String}
    (opened : document.OpenTowards chain definition)
    (cited : definition.Cites ref) (resolved : document.Resolves ref name target)
    : document.OpenTowards (name :: chain) target := by
  intro other member
  rcases List.mem_cons.mp member with rfl | before
  · exact ⟨target, resolved.2, fun _ leads => leads⟩
  · obtain ⟨own, found, onward⟩ := opened other before
    refine ⟨own, found, ?_⟩
    intro last leads
    exact onward last (.onward cited resolved (by simp) leads)

theorem Definition.onCycle_of_mem_walk {document : Document} {chain : List String}
    {definition : Definition} {name : String}
    (opened : document.OpenTowards chain definition)
    (met : .cycle name ∈ definition.walk document chain)
    : document.OnCycle name := by
  induction chain, definition using document.opening_induction with
  | step chain definition ih =>
      rcases Definition.cycle_mem_walk.mp met with
        ⟨ref, target, cited, resolved, member⟩
        | ⟨ref, next, target, cited, resolved, fresh, below⟩
      · obtain ⟨own, found, onward⟩ := opened name member
        exact ⟨own, found, onward name (.direct cited resolved (by simp))⟩
      · exact ih chain ref next target (List.Subset.refl _) cited resolved fresh
          (opened.enter cited resolved) below

-----------------------------------------------------------------------------------------
-- A definition on a cycle is refused at its end
-----------------------------------------------------------------------------------------

/-- A chain of references leads to the name, and none of the names on its way is open. The
name itself may be.
-/
inductive Document.Returns (document : Document) (chain : List String)
    : Definition → String → Prop
  | direct {definition target : Definition} {ref : Reference} {name : String}
    (cited : definition.Cites ref) (resolved : document.Resolves ref name target)
    : Returns document chain definition name
  | onward {definition target : Definition} {ref : Reference} {name last : String}
    (cited : definition.Cites ref) (resolved : document.Resolves ref name target)
    (fresh : name ∉ chain) (further : Returns document chain target last)
    : Returns document chain definition last

theorem Document.Leads.returns {document : Document} {definition : Definition}
    {last : String} (leads : document.Leads none definition last)
    : document.Returns [] definition last := by
  induction leads with
  | direct cited resolved _ => exact .direct cited resolved
  | onward cited resolved _ _ ih => exact .onward cited resolved (by simp) ih

/-- Where a chain of references comes through a name, the part behind its last visit can start
there anew, by induction over the chain.
-/
theorem Document.Returns.cut {document : Document} {chain : List String}
    {definition own : Definition} {name last : String}
    (found : document.get? name = some own)
    (returns : document.Returns chain definition last)
    : document.Returns (name :: chain) definition last
      ∨ document.Returns (name :: chain) own last := by
  induction returns with
  | direct cited resolved => exact .inl (.direct cited resolved)
  | @onward definition target ref next last cited resolved fresh _ ih =>
      rcases ih with avoiding | fromOwn
      · by_cases same : next = name
        · subst same
          cases found.symm.trans resolved.2
          exact .inr avoiding
        · exact .inl (.onward cited resolved (by simp [same, fresh]) avoiding)
      · exact .inr fromOwn

theorem Document.Returns.open_own {document : Document} {chain : List String}
    {own : Definition} {name last : String} (found : document.get? name = some own)
    (returns : document.Returns chain own last)
    : document.Returns (name :: chain) own last := by
  rcases returns.cut found with avoiding | avoiding
  · exact avoiding
  · exact avoiding

theorem Definition.mem_walk_of_returns {document : Document} {chain : List String}
    {definition : Definition} {name : String} (opened : name ∈ chain)
    (returns : document.Returns chain definition name)
    : .cycle name ∈ definition.walk document chain := by
  induction chain, definition using document.opening_induction with
  | step chain definition ih =>
      cases returns with
      | direct cited resolved =>
          exact Definition.cycle_mem_walk.mpr (.inl ⟨_, _, cited, resolved, opened⟩)
      | onward cited resolved fresh further =>
          have below := ih chain _ _ _ (List.Subset.refl _) cited resolved fresh
            (.tail _ opened) (further.open_own resolved.2)
          exact Definition.cycle_mem_walk.mpr (.inr ⟨_, _, _, cited, resolved, fresh, below⟩)

-----------------------------------------------------------------------------------------
-- Events
-----------------------------------------------------------------------------------------

/-- The definition that an event is about, where it is about one. -/
def Event.definition? : Event → Option String
  | .skipped definition => some definition
  | .cycle definition => some definition
  | .foreignReference _ | .unknownReference _ | .generated .. => none

/-- An event tells of a definition that is no record, of a step in the walk of a record, or of the
output.
-/
theorem Document.mem_events {document : Document} {target : Target} {event : Event}
    : event ∈ document.events target
      ↔ (∃ owner definition,
          document.get? owner = some definition
          ∧ ¬ definition.isRecord
          ∧ event = .skipped owner)
        ∨ (∃ owner definition step,
            document.get? owner = some definition
            ∧ definition.isRecord
            ∧ step ∈ definition.walk document (seedChain (some owner))
            ∧ step.event? = some event)
        ∨ event
          = .generated target (generate document target).recordCount
              (generate document target).skipped.length (generate document target).checksum := by
  simp only [Document.events, List.mem_append, List.mem_flatMap, List.mem_singleton, ← or_assoc]
  refine or_congr_left ?_
  constructor
  · rintro ⟨⟨owner, definition⟩, member, told⟩
    rw [← Document.get?_eq_some_iff] at member
    unfold Definition.events at told
    split at told
    · next record =>
        obtain ⟨step, met, same⟩ := List.mem_filterMap.mp told
        exact .inr ⟨owner, definition, step, member, record, met, same⟩
    · next other => exact .inl ⟨owner, definition, member, other, List.mem_singleton.mp told⟩
  · rintro (⟨owner, definition, found, other, rfl⟩
      | ⟨owner, definition, step, found, record, met, same⟩)
    · refine ⟨(owner, definition), Document.get?_eq_some_iff.mp found, ?_⟩
      rw [Definition.events, if_neg other]
      exact .head _
    · refine ⟨(owner, definition), Document.get?_eq_some_iff.mp found, ?_⟩
      rw [Definition.events, if_pos record]
      exact List.mem_filterMap.mpr ⟨step, met, same⟩

/-- The cycles among the events are those that the walks of the records meet. -/
theorem Document.cycle_mem_events {document : Document} {target : Target} {name : String}
    : .cycle name ∈ document.events target
      ↔ ∃ owner definition,
          document.get? owner = some definition
          ∧ definition.isRecord
          ∧ .cycle name ∈ definition.walk document (seedChain (some owner)) := by
  rw [Document.mem_events]
  constructor
  · rintro (⟨_, _, _, _, same⟩ | ⟨owner, definition, step, found, record, met, same⟩ | same)
    · cases same
    · cases step with
      | cycle other =>
          cases same
          exact ⟨owner, definition, found, record, met⟩
      | property | foreign | unknown => cases same
    · cases same
  · rintro ⟨owner, definition, found, record, met⟩
    exact .inr (.inl ⟨owner, definition, _, found, record, met, rfl⟩)

theorem Document.cycle_mem_events_iff_onCycle {document : Document} (target : Target)
    {name : String}
    : .cycle name ∈ document.events target ↔ document.OnCycle name := by
  rw [Document.cycle_mem_events]
  constructor
  · rintro ⟨owner, definition, found, _, met⟩
    exact Definition.onCycle_of_mem_walk (Document.openTowards_seed found) met
  · rintro ⟨definition, found, leads⟩
    have record : definition.isRecord := by
      cases leads with
      | direct cited _ _ => exact cited.isRecord
      | onward cited _ _ _ => exact cited.isRecord
    exact ⟨name, definition, found, record,
      Definition.mem_walk_of_returns (.head _) (leads.returns.open_own found)⟩

theorem Event.severity_eq_warn_iff {event : Event}
    : event.severity = .warn ↔ ∃ name, event = .cycle name := by
  cases event <;> simp [Event.severity]

/-- The warnings about reference cycles name exactly the definitions that lie on a cycle of
references, so that a document without cycles is generated without a warning, and no other.
-/
theorem Document.warnings_iff_onCycle (document : Document) (target : Target)
    : (∀ name,
        (∃ event ∈ document.events target,
          event.severity = .warn
          ∧ event.message = "reference cycle, not expanding again"
          ∧ event.definition? = some name)
        ↔ document.OnCycle name)
      ∧ ((∀ event ∈ document.events target, event.severity ≠ .warn)
        ↔ ∀ name, ¬ document.OnCycle name) := by
  constructor
  · intro name
    rw [← Document.cycle_mem_events_iff_onCycle target]
    constructor
    · rintro ⟨event, told, warns, _, about⟩
      obtain ⟨other, rfl⟩ := Event.severity_eq_warn_iff.mp warns
      cases about
      exact told
    · intro told
      exact ⟨.cycle name, told, rfl, rfl, rfl⟩
  · constructor
    · intro quiet name onCycle
      exact quiet _ ((Document.cycle_mem_events_iff_onCycle target).mpr onCycle) rfl
    · intro acyclic event told warns
      obtain ⟨name, rfl⟩ := Event.severity_eq_warn_iff.mp warns
      exact acyclic name ((Document.cycle_mem_events_iff_onCycle target).mp told)

end RecordSmith
