import RecordSmith.Schema.Document

/-! The walk through a definition and all it is composed of, from left to right and members
before own properties. A definition is entered again on every path that leads to it, unless it
is still open on this path.
-/

namespace RecordSmith

/-- What the walk comes upon. -/
inductive Step where
  | property (name : String)
  | foreign (pointer : String)
  | unknown (pointer : String)
  | cycle (name : String)
deriving Repr, DecidableEq

/-- The property name of a step at a property. -/
def Step.property? : Step → Option String
  | .property name => some name
  | _ => none

/-- The number of names of the document that are not open. -/
def Document.closedCount (document : Document) (chain : List String) : Nat :=
  (document.names.filter fun name => !chain.contains name).length

/-- Opening a name of the document that is not open leaves fewer names closed. -/
theorem Document.closedCount_cons {document : Document} {chain : List String} {name : String}
    (known : name ∈ document.names) (fresh : name ∉ chain)
    : document.closedCount (name :: chain) < document.closedCount chain := by
  unfold closedCount
  have fewer : ∀ list : List String,
      (list.filter fun other => !(name :: chain).contains other).length
        ≤ (list.filter fun other => !chain.contains other).length := by
    intro list
    induction list with
    | nil => simp
    | cons head rest ih =>
        by_cases opened : head ∈ chain <;> by_cases same : head = name <;> grind
  generalize document.names = names at known
  induction names with
  | nil => simp at known
  | cons head rest ih =>
      by_cases same : head = name
      · subst same
        have := fewer rest
        simp [fresh] at this ⊢
        omega
      · have := ih (by simpa [Ne.symm same] using known)
        by_cases opened : head ∈ chain
        · simpa [opened] using this
        · simpa [opened, same] using this

mutual

/-- The steps through a definition while the names of the chain are open. -/
def Definition.walk (document : Document) (chain : List String) (definition : Definition)
    : List Step :=
  Member.walkAll document chain definition.members
    ++ definition.propertyNames.map Step.property
termination_by (document.closedCount chain, sizeOf definition)
decreasing_by
  exact Prod.Lex.right _ definition.sizeOf_members

/-- The steps through the members of a composition list. -/
def Member.walkAll (document : Document) (chain : List String) : List Member → List Step
  | [] => []
  | member :: rest => Member.walk document chain member ++ Member.walkAll document chain rest
termination_by members => (document.closedCount chain, sizeOf members)

/-- The steps through a member. A reference opens the definition that it names, if there is
one and it is not open.
-/
def Member.walk (document : Document) (chain : List String) (member : Member) : List Step :=
  match member with
  | .inline fragment => fragment.walk document chain
  | .reference ref =>
      match ref.target? with
      | none => [.foreign ref.pointer]
      | some name =>
          match found : document.get? name with
          | none => [.unknown ref.pointer]
          | some definition =>
              if opened : name ∈ chain then [.cycle name]
              else
                have := Document.closedCount_cons (Document.mem_names_of_get? found) opened
                definition.walk document (name :: chain)
termination_by (document.closedCount chain, sizeOf member)
decreasing_by
  · apply Prod.Lex.right
    simp
  · exact Prod.Lex.left _ _ this

end

end RecordSmith
