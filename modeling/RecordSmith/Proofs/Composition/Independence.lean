import RecordSmith.Proofs.Composition.KeepFirst
import RecordSmith.Proofs.Composition.References

/-! Without cycles each member of a composition list can be resolved apart from the others: what
is open never keeps a walk from a definition, and the fields of the members are merged.
-/

namespace RecordSmith

/-- The fields of a member when it is resolved by itself. -/
def Member.fields (document : Document) : Member → List String
  | .inline fragment => fragment.fields document none
  | .reference ref =>
      match ref.target? with
      | none => []
      | some name =>
          match document.get? name with
          | none => []
          | some target => target.fields document (some name)

/-- A reference that resolves has the fields of the definition under its name. -/
theorem Member.fields_of_resolves {document : Document} {ref : Reference} {name : String}
    {target : Definition} (resolved : document.Resolves ref name target)
    : Member.fields document (.reference ref) = target.fields document (some name) := by
  obtain ⟨named, found⟩ := resolved
  simp only [Member.fields, named, found]

/-- A reference that does not resolve has no fields. -/
theorem Member.fields_of_unresolved {document : Document} {ref : Reference}
    (unresolved : ∀ name target, ¬ document.Resolves ref name target)
    : Member.fields document (.reference ref) = [] := by
  rw [Member.fields]
  split
  · rfl
  · next name named =>
      split
      · rfl
      · next target found => exact absurd ⟨named, found⟩ (unresolved name target)

/-- No definition that the definition reaches lies on a cycle. -/
def Document.AcyclicFrom (document : Document) (definition : Definition) : Prop :=
  ∀ name, document.Leads none definition name → ¬ document.OnCycle name

/-- The definition reaches none of the names. -/
def Document.Misses (document : Document) (names : List String) (definition : Definition)
    : Prop :=
  ∀ name ∈ names, ¬ document.Leads none definition name

section

variable {document : Document} {definition fragment target : Definition} {ref : Reference}
  {name : String} {chain : List String}

/-- What a fragment reaches, the definition around it reaches. -/
theorem Document.Leads.of_fragment (member : .inline fragment ∈ definition.members)
    (leads : document.Leads none fragment name)
    : document.Leads none definition name := by
  have around {ref : Reference} (cited : fragment.Cites ref) : definition.Cites ref := by
    obtain ⟨part, within, among⟩ := cited
    exact ⟨part, .nested member within, among⟩
  cases leads with
  | direct cited resolved allowed => exact .direct (around cited) resolved allowed
  | onward cited resolved allowed further =>
      exact .onward (around cited) resolved allowed further

/-- A definition that can be opened misses what is open together with its own name. -/
theorem Document.Misses.behind (missed : document.Misses chain definition)
    (acyclic : document.AcyclicFrom definition) (cited : definition.Cites ref)
    (resolved : document.Resolves ref name target)
    : document.Misses (name :: chain) target := by
  intro other member further
  rcases List.mem_cons.mp member with same | opened
  · subst same
    exact acyclic other (.direct cited resolved (by simp)) ⟨target, resolved.2, further⟩
  · exact missed other opened (.onward cited resolved (by simp) further)

end

/-- The walk is the same whatever is open, as long as the definition does not reach it. -/
theorem Definition.walk_eq_of_misses {document : Document} {definition : Definition}
    {chain other : List String} (missed : document.Misses chain definition)
    (otherMissed : document.Misses other definition)
    : definition.walk document chain = definition.walk document other := by
  apply Definition.walk_congr_open
  intro name reached
  exact iff_of_false (fun opened => missed name opened reached)
    fun opened => otherMissed name opened reached

/-- The properties met below members are those met below each of them, one after the other. -/
theorem Member.propertiesOf_walkAll (document : Document) (chain : List String)
    (members : List Member)
    : propertiesOf (Member.walkAll document chain members)
      = members.flatMap fun member => propertiesOf (member.walk document chain) := by
  induction members with
  | nil => rw [Member.walkAll]; rfl
  | cons member rest ih =>
      rw [Member.walkAll, propertiesOf_append, ih, List.flatMap_cons]

/-- The walk through a member keeps the same properties as the member by itself. -/
theorem Member.keepFirst_walk {document : Document} {definition : Definition}
    {chain : List String} {member : Member} (acyclic : document.AcyclicFrom definition)
    (missed : document.Misses chain definition) (among : member ∈ definition.members)
    : keepFirst (propertiesOf (member.walk document chain))
      = keepFirst (member.fields document) := by
  cases member with
  | inline fragment =>
      have fragmentMissed : document.Misses chain fragment :=
        fun name opened leads => missed name opened (leads.of_fragment among)
      have nothingMissed : document.Misses (seedChain none) fragment := by
        simp [Document.Misses, seedChain]
      rw [Member.walk, Member.fields, Definition.fields, keepFirst_keepFirst,
        Definition.walk_eq_of_misses fragmentMissed nothingMissed]
      rfl
  | reference ref =>
      by_cases resolves : ∃ name target, document.Resolves ref name target
      · obtain ⟨name, target, resolved⟩ := resolves
        have cited : definition.Cites ref := ⟨definition, .self _, among⟩
        have reached : document.Leads none definition name := .direct cited resolved (by simp)
        have targetMissed := missed.behind acyclic cited resolved
        have ownMissed : document.Misses (seedChain (some name)) target := by
          intro other member leads
          exact targetMissed other (by simp_all [seedChain]) leads
        rw [Member.walk_of_fresh resolved fun opened => missed name opened reached,
          Member.fields_of_resolves resolved, Definition.fields, keepFirst_keepFirst,
          Definition.walk_eq_of_misses targetMissed ownMissed]
        rfl
      · have unresolved : ∀ name target, ¬ document.Resolves ref name target := by
          simpa only [not_exists] using resolves
        have nothing : propertiesOf (Member.walk document chain (.reference ref)) = [] := by
          rw [List.eq_nil_iff_forall_not_mem]
          intro property met
          exact Member.property_not_mem_walk_of_unresolved unresolved (mem_propertiesOf.mp met)
        rw [nothing, Member.fields_of_unresolved unresolved]

/-- Where no cycle is within reach and the seed is not either, the fields of a definition are
the fields of its members, each resolved by itself, and then its own properties, each name
where it first stands.
-/
theorem Definition.fields_eq_merge_members {document : Document} {seed : Option String}
    {definition : Definition} (acyclic : document.AcyclicFrom definition)
    (unreached : ∀ name, seed = some name → ¬ document.Leads none definition name)
    : definition.fields document seed
      = keepFirst
          (definition.members.flatMap (Member.fields document)
            ++ definition.propertyNames) := by
  have missed : document.Misses (seedChain seed) definition := by
    intro name member
    exact unreached name (by simpa [seedChain] using member)
  have merged : keepFirst (propertiesOf (Member.walkAll document (seedChain seed)
      definition.members)) = keepFirst (definition.members.flatMap (Member.fields document)) := by
    rw [Member.propertiesOf_walkAll]
    exact keepFirst_flatMap_congr fun member among => Member.keepFirst_walk acyclic missed among
  calc definition.fields document seed
      = keepFirst (propertiesOf (definition.walk document (seedChain seed))) := rfl
    _ = keepFirst (propertiesOf (Member.walkAll document (seedChain seed) definition.members)
          ++ definition.propertyNames) := by
        rw [Definition.walk, propertiesOf_append, propertiesOf_map_property]
    _ = keepFirst (definition.members.flatMap (Member.fields document)
          ++ definition.propertyNames) := keepFirst_append_congr_left merged _

/-- C refers to A twice, once through B. -/
def stairs : Document where
  definitions := [("A", linked "a" []), ("B", linked "b" ["A"]), ("C", linked "c" ["B", "A"])]
  distinct := by decide

/-- The place of a name on the stairs. -/
def stairsRank (name : String) : Nat :=
  ["A", "B", "C"].idxOf name

/-- Every reference on the stairs goes down. -/
theorem stairs_falls (name : String) (definition : Definition) (ref : Reference)
    (next : String) (target : Definition) (found : stairs.get? name = some definition)
    (cited : definition.Cites ref) (resolved : stairs.Resolves ref next target)
    : stairsRank next < stairsRank name := by
  have toA : (Reference.mk ("#/definitions/" ++ "A")).target? = some "A" := rfl
  have toB : (Reference.mk ("#/definitions/" ++ "B")).target? = some "B" := rfl
  simp only [Document.get?, stairs, Entries.find?] at found
  split at found
  · cases found
    obtain ⟨key, member, rfl⟩ := cites_linked cited
    simp at member
  split at found
  · next here =>
      cases found
      subst here
      obtain ⟨key, member, rfl⟩ := cites_linked cited
      cases List.mem_singleton.mp member
      cases toA.symm.trans resolved.1
      decide
  split at found
  · next here =>
      cases found
      subst here
      obtain ⟨key, member, rfl⟩ := cites_linked cited
      rcases List.mem_cons.mp member with rfl | last
      · cases toB.symm.trans resolved.1
        decide
      · cases List.mem_singleton.mp last
        cases toA.symm.trans resolved.1
        decide
  · cases found

/-- On the stairs nothing is on a cycle and no name is within its own reach, so that fields are
merged step by step.
-/
theorem Definition.fields_eq_merge_members_stairs
    : stairs.AcyclicFrom (linked "c" ["B", "A"])
      ∧ ¬ stairs.Leads none (linked "c" ["B", "A"]) "C"
      ∧ (linked "c" ["B", "A"]).fields stairs (some "C") = ["a", "b", "c"] := by
  have acyclic (definition : Definition) : stairs.AcyclicFrom definition := by
    rintro name _ ⟨own, found, leads⟩
    exact Nat.lt_irrefl _ (leads.rank_lt stairs_falls found)
  have unreached {own : String} {definition : Definition}
      (found : stairs.get? own = some definition)
      : ∀ name, some own = some name → ¬ stairs.Leads none definition name := by
    rintro name ⟨⟩ leads
    exact Nat.lt_irrefl _ (leads.rank_lt stairs_falls found)
  have fieldsA : (linked "a" []).fields stairs (some "A") = ["a"] :=
    Definition.fields_eq_merge_members (acyclic _) (unreached rfl)
  have fieldsB : (linked "b" ["A"]).fields stairs (some "B") = ["a", "b"] := by
    rw [Definition.fields_eq_merge_members (acyclic _) (unreached rfl)]
    change keepFirst (((linked "a" []).fields stairs (some "A") ++ []) ++ ["b"]) = _
    rw [fieldsA]
    decide
  refine ⟨acyclic _, unreached rfl "C" rfl, ?_⟩
  rw [Definition.fields_eq_merge_members (acyclic _) (unreached rfl)]
  change keepFirst (((linked "b" ["A"]).fields stairs (some "B")
    ++ ((linked "a" []).fields stairs (some "A") ++ [])) ++ ["c"]) = _
  rw [fieldsA, fieldsB]
  decide

end RecordSmith
