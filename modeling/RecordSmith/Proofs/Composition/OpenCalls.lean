import Mathlib.Data.Prod.Lex
import Mathlib.Logic.Relation
import RecordSmith.Proofs.Composition.Reachability

/-! Why the walk ends. It calls itself for inline fragments, which are nested less deeply, and for
definitions behind references, which may be larger but leave fewer names of the document closed.
No name is opened twice, so that no more references are open at once than the document has names.
-/

namespace RecordSmith

-----------------------------------------------------------------------------------------
-- Calls
-----------------------------------------------------------------------------------------

/-- A call of the walk: the names that are open, the last one first, and the definition that is
expanded.
-/
structure Call where
  chain : List String
  definition : Definition

/-- The call from outside, for a definition with the name that it may have. -/
def Call.start (seed : Option String) (definition : Definition) : Call :=
  ⟨seedChain seed, definition⟩

/-- One call makes another: for an inline fragment under the same names, or for the definition of
a name that a reference opens.
-/
inductive Document.Calls (document : Document) : Call → Call → Prop
  | fragment {chain : List String} {definition fragment : Definition}
    (member : .inline fragment ∈ definition.members)
    : document.Calls ⟨chain, definition⟩ ⟨chain, fragment⟩
  | reference {chain : List String} {definition target : Definition} {ref : Reference}
    {name : String} (member : .reference ref ∈ definition.members)
    (resolved : document.Resolves ref name target) (fresh : name ∉ chain)
    : document.Calls ⟨chain, definition⟩ ⟨name :: chain, target⟩

/-- The steps at a member, when every call yields the given steps. -/
def Member.stepsBy (document : Document) (below : Call → List Step) (chain : List String)
    : Member → List Step
  | .inline fragment => below ⟨chain, fragment⟩
  | .reference ref =>
      match ref.target? with
      | none => [.foreign ref.pointer]
      | some name =>
          match document.get? name with
          | none => [.unknown ref.pointer]
          | some target => if name ∈ chain then [.cycle name] else below ⟨name :: chain, target⟩

/-- The steps of a call, when every call that it makes yields the given steps. -/
def Document.stepsBy (document : Document) (below : Call → List Step) (call : Call)
    : List Step :=
  call.definition.members.flatMap (Member.stepsBy document below call.chain)
    ++ call.definition.propertyNames.map Step.property

/-- The steps of a call. -/
def Document.stepsOf (document : Document) (call : Call) : List Step :=
  call.definition.walk document call.chain

theorem Member.walk_eq_stepsBy (document : Document) (chain : List String) (member : Member)
    : member.walk document chain = member.stepsBy document document.stepsOf chain := by
  cases member with
  | inline fragment => rw [Member.walk, Member.stepsBy, Document.stepsOf]
  | reference ref =>
      unfold Member.stepsBy
      cases named : ref.target? with
      | none => simp only [Member.walk, named]
      | some name =>
          cases found : document.get? name with
          | none =>
              rw [Member.walk]
              simp only [named]
              split
              · simp only [found]
              · next present => cases found.symm.trans present
          | some target =>
              have resolved : document.Resolves ref name target := ⟨named, found⟩
              by_cases opened : name ∈ chain
              · simp only [Member.walk_of_open resolved opened, named, found, if_pos opened]
              · simp only [Member.walk_of_fresh resolved opened, named, found, if_neg opened,
                  Document.stepsOf]

theorem Member.walkAll_eq_flatMap (document : Document) (chain : List String)
    (members : List Member)
    : Member.walkAll document chain members = members.flatMap (Member.walk document chain) := by
  induction members with
  | nil => rw [Member.walkAll, List.flatMap_nil]
  | cons member rest ih => rw [Member.walkAll, List.flatMap_cons, ih]

/-- The steps of a call are made of those of the calls that it makes. -/
theorem Document.stepsOf_eq (document : Document) (call : Call)
    : document.stepsOf call = document.stepsBy document.stepsOf call := by
  have members : Member.walk document call.chain
      = Member.stepsBy document document.stepsOf call.chain :=
    funext (Member.walk_eq_stepsBy document call.chain)
  rw [Document.stepsOf, Definition.walk, Member.walkAll_eq_flatMap, members, Document.stepsBy]

/-- The steps of a call depend only on those of the calls that it makes. -/
theorem Document.stepsBy_congr {document : Document} {first second : Call → List Step}
    {call : Call} (same : ∀ next, document.Calls call next → first next = second next)
    : document.stepsBy first call = document.stepsBy second call := by
  obtain ⟨chain, definition⟩ := call
  unfold Document.stepsBy
  congr 1
  apply List.flatMap_congr
  intro member among
  cases member with
  | inline fragment => exact same _ (.fragment among)
  | reference ref =>
      simp only [Member.stepsBy]
      split
      · rfl
      · next name named =>
          split
          · rfl
          · next target found =>
              split
              · rfl
              · next fresh => exact same _ (.reference among ⟨named, found⟩ fresh)

-----------------------------------------------------------------------------------------
-- What gets less
-----------------------------------------------------------------------------------------

mutual

/-- The nesting size of a definition: the number of definitions that are written in it, itself
and inline fragments at any depth.
-/
def Definition.nesting (definition : Definition) : Nat :=
  Member.nestingOfAll definition.members + 1
termination_by sizeOf definition
decreasing_by exact definition.sizeOf_members

/-- The number of definitions that are written in the members of a composition list. -/
def Member.nestingOfAll : List Member → Nat
  | [] => 0
  | .reference _ :: rest => Member.nestingOfAll rest
  | .inline fragment :: rest => fragment.nesting + Member.nestingOfAll rest
termination_by members => sizeOf members

end

theorem Member.nesting_le_nestingOfAll {fragment : Definition} {members : List Member}
    (among : .inline fragment ∈ members)
    : fragment.nesting ≤ Member.nestingOfAll members := by
  induction members with
  | nil => cases among
  | cons member rest ih =>
      rcases List.mem_cons.mp among with same | later
      · cases same
        rw [Member.nestingOfAll]
        omega
      · have bound := ih later
        cases member with
        | reference ref => rwa [Member.nestingOfAll]
        | inline other =>
            rw [Member.nestingOfAll]
            omega

/-- What a call has left: the number of names of the document that are not open, and the nesting
size of its definition.
-/
def Document.left (document : Document) (call : Call) : Nat ×ₗ Nat :=
  toLex (document.closedCount call.chain, call.definition.nesting)

/-- A call has more left than each call that it makes. -/
theorem Document.Calls.left_lt {document : Document} {call next : Call}
    (calls : document.Calls call next)
    : document.left next < document.left call := by
  cases calls with
  | @fragment chain definition fragment member =>
      have bound := Member.nesting_le_nestingOfAll member
      have whole : definition.nesting = Member.nestingOfAll definition.members + 1 := by
        rw [Definition.nesting]
      apply Prod.Lex.right
      change fragment.nesting < definition.nesting
      omega
  | reference _ resolved fresh =>
      exact Prod.Lex.left _ _
        (Document.closedCount_cons (Document.mem_names_of_get? resolved.2) fresh)

theorem Document.wellFounded_calls (document : Document)
    : WellFounded fun next call => document.Calls call next :=
  Subrelation.wf Document.Calls.left_lt (InvImage.wf document.left wellFounded_lt)

/-- The steps of all calls are the only ones that are made of each other as the walk says, by
induction over the calls.
-/
theorem Document.eq_stepsOf_iff {document : Document} {below : Call → List Step}
    : below = document.stepsOf ↔ ∀ call, below call = document.stepsBy below call := by
  constructor
  · rintro rfl call
    exact document.stepsOf_eq call
  · intro solves
    funext call
    induction call using document.wellFounded_calls.induction with
    | h call ih => rw [solves call, document.stepsOf_eq call, Document.stepsBy_congr ih]

-----------------------------------------------------------------------------------------
-- What is open
-----------------------------------------------------------------------------------------

/-- The names that references opened, the last one first: they stand in front of the seed, are
names of the document, and no name is open twice.
-/
structure Document.Opened (document : Document) (seed : Option String) (names : List String)
    (call : Call)
    : Prop where
  chain : call.chain = names ++ seedChain seed
  distinct : call.chain.Nodup
  known : names ⊆ document.names

theorem Document.opened_start (document : Document) (seed : Option String)
    (definition : Definition)
    : document.Opened seed [] (.start seed definition) where
  chain := rfl
  distinct := by cases seed <;> simp [Call.start, seedChain]
  known := List.nil_subset _

/-- A call for a fragment opens nothing, and one for a reference a name that was closed. -/
theorem Document.Opened.step {document : Document} {seed : Option String}
    {names : List String} {call next : Call} (opened : document.Opened seed names call)
    (calls : document.Calls call next)
    : ∃ more, document.Opened seed more next := by
  cases calls with
  | fragment => exact ⟨names, opened.chain, opened.distinct, opened.known⟩
  | @reference _ _ _ _ name _ resolved fresh =>
      refine ⟨name :: names, congrArg (name :: ·) opened.chain, ?_, ?_⟩
      · exact List.nodup_cons.mpr ⟨fresh, opened.distinct⟩
      · exact List.cons_subset.mpr ⟨Document.mem_names_of_get? resolved.2, opened.known⟩

theorem Document.exists_opened {document : Document} {seed : Option String}
    {definition : Definition} {call : Call}
    (made : Relation.ReflTransGen document.Calls (.start seed definition) call)
    : ∃ names, document.Opened seed names call := by
  induction made with
  | refl => exact ⟨[], document.opened_start seed definition⟩
  | tail _ calls ih =>
      obtain ⟨names, opened⟩ := ih
      exact opened.step calls

theorem Document.length_names (document : Document) : document.names.length = document.size :=
  List.length_map _

namespace Document.Opened

variable {document : Document} {seed : Option String} {names : List String} {call : Call}

theorem length_le (opened : document.Opened seed names call)
    : names.length ≤ document.size := by
  have distinct := opened.distinct
  rw [opened.chain] at distinct
  rw [← document.length_names]
  exact (List.nodup_append.mp distinct).1.length_le_of_subset opened.known

/-- If the seed is a name of the document, it takes the place of one that could be opened. -/
theorem length_lt (opened : document.Opened seed names call) {name : String}
    (seeded : seed = some name) (known : name ∈ document.names)
    : names.length < document.size := by
  have distinct := opened.distinct
  rw [opened.chain] at distinct
  have within : names ++ seedChain seed ⊆ document.names := by
    apply List.append_subset.mpr ⟨opened.known, ?_⟩
    intro other member
    cases seeded.symm.trans (mem_seedChain.mp member)
    exact known
  have bound := distinct.length_le_of_subset within
  rw [document.length_names, List.length_append, seeded] at bound
  exact bound

end Document.Opened

/-- The walk ends. Each call has fewer closed names left than the call that makes it, or as many
and a smaller nesting size, so that the steps of all calls are determined by what each call makes
of the steps below it. At every call the chain has no repetitions and is made of names of the
document but for the seed, so that no more references are open than the document has names, not
counting the seed.
-/
theorem Document.calls_end (document : Document) (seed : Option String)
    (definition : Definition)
    : (∀ call next,
        document.Calls call next
        → Prod.Lex (· < ·) (· < ·)
            (document.closedCount next.chain, next.definition.nesting)
            (document.closedCount call.chain, call.definition.nesting))
      ∧ WellFounded (fun next call => document.Calls call next)
      ∧ (∀ below : Call → List Step,
          (∀ call, below call = document.stepsBy below call)
          ↔ ∀ call, below call = call.definition.walk document call.chain)
      ∧ ∀ call,
          Relation.ReflTransGen document.Calls (.start seed definition) call
          → ∃ names,
              call.chain = names ++ seedChain seed
              ∧ call.chain.Nodup
              ∧ names ⊆ document.names
              ∧ names.length ≤ document.size
              ∧ ∀ name ∈ seed, name ∈ document.names → names.length ≤ document.size - 1 := by
  refine ⟨fun call next calls => calls.left_lt, document.wellFounded_calls, ?_, ?_⟩
  · intro below
    rw [← document.eq_stepsOf_iff, funext_iff]
    rfl
  · intro call made
    obtain ⟨names, opened⟩ := Document.exists_opened made
    refine ⟨names, opened.chain, opened.distinct, opened.known, opened.length_le, ?_⟩
    intro name seeded known
    exact Nat.le_pred_of_lt (opened.length_lt seeded known)

/-- A definition with a fragment in a fragment, which refers to the definition itself and to one
that is smaller.
-/
def spiralLarge : Definition :=
  ⟨none, none, some [.inline ⟨none, none, some [.inline (linked "l" ["Large", "Small"])]⟩]⟩

def spiral : Document where
  definitions := [("Small", linked "s" ["Large"]), ("Large", spiralLarge)]
  distinct := by decide

/-- A reference leads from the small definition to the large one, and yet less is left. In the
innermost fragment both references are to open names, and no further call is made.
-/
theorem Document.calls_end_spiral
    : let inside : Call := ⟨["Large", "Small"], linked "l" ["Large", "Small"]⟩
      (linked "s" ["Large"]).nesting < spiralLarge.nesting
      ∧ Prod.Lex (· < ·) (· < ·) (spiral.closedCount ["Large", "Small"], spiralLarge.nesting)
          (spiral.closedCount ["Small"], (linked "s" ["Large"]).nesting)
      ∧ Relation.ReflTransGen spiral.Calls (.start (some "Small") (linked "s" ["Large"])) inside
      ∧ ∃ names, inside.chain = names ++ ["Small"] ∧ names.length ≤ spiral.size - 1 := by
  have opens
      : spiral.Calls (.start (some "Small") (linked "s" ["Large"]))
          ⟨["Large", "Small"], spiralLarge⟩ := by
    exact .reference (.head _) ⟨rfl, rfl⟩ (by decide)
  have made
      : Relation.ReflTransGen spiral.Calls (.start (some "Small") (linked "s" ["Large"]))
          ⟨["Large", "Small"], linked "l" ["Large", "Small"]⟩ :=
    .tail (.tail (.single opens) (.fragment (.head _))) (.fragment (.head _))
  obtain ⟨decreases, _, _, bounds⟩ :=
    Document.calls_end spiral (some "Small") (linked "s" ["Large"])
  obtain ⟨names, chain, _, _, _, bound⟩ := bounds _ made
  have grows : (linked "s" ["Large"]).nesting < spiralLarge.nesting := by
    simp [Definition.nesting, Member.nestingOfAll, Definition.members, linked, spiralLarge]
  exact ⟨grows, decreases _ _ opens, made, names, chain, bound "Small" rfl (by decide)⟩

end RecordSmith
