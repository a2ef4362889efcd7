import RecordSmith.Declaration
import RecordSmith.Proofs.Composition.Independence

/-! A declaration depends only on what its definition can reach. Documents that agree there
give the same declaration, whatever else they hold and in whatever order.
-/

namespace RecordSmith

-----------------------------------------------------------------------------------------
-- Names that are asked for
-----------------------------------------------------------------------------------------

/-- A reference in the definition, at any inline depth, names the name. -/
def Definition.Names (definition : Definition) (name : String) : Prop :=
  ∃ ref, definition.Cites ref ∧ ref.target? = some name

/-- The definition, or one that it reaches in the document, names the name. -/
def Document.Asks (document : Document) (definition : Definition) (name : String) : Prop :=
  definition.Names name
  ∨ ∃ reached target,
      document.Leads none definition reached
      ∧ document.get? reached = some target
      ∧ target.Names name

/-- The documents have the same definition, or none, under every name that is asked for. -/
def Document.AgreesFrom (first second : Document) (definition : Definition) : Prop :=
  ∀ name, first.Asks definition name → first.get? name = second.get? name

section

variable {first second : Document} {definition target : Definition} {ref : Reference}
  {name : String} {chain : List String}

/-- What is asked for behind a reference is asked for in front of it. -/
theorem Document.Asks.behind {asked : String} (cited : definition.Cites ref)
    (resolved : first.Resolves ref name target) (asks : first.Asks target asked)
    : first.Asks definition asked := by
  rcases asks with names | ⟨reached, last, leads, found, names⟩
  · exact .inr ⟨name, target, .direct cited resolved (by simp), resolved.2, names⟩
  · exact .inr ⟨reached, last, .onward cited resolved (by simp) leads, found, names⟩

theorem Document.AgreesFrom.behind (agree : first.AgreesFrom second definition)
    (cited : definition.Cites ref) (resolved : first.Resolves ref name target)
    : first.AgreesFrom second target :=
  fun asked asks => agree asked (asks.behind cited resolved)

theorem Document.AgreesFrom.get?_eq (agree : first.AgreesFrom second definition)
    (cited : definition.Cites ref) (named : ref.target? = some name)
    : first.get? name = second.get? name :=
  agree name (.inl ⟨ref, cited, named⟩)

-----------------------------------------------------------------------------------------
-- Walks and declarations
-----------------------------------------------------------------------------------------

/-- A reference is walked alike in two documents that give it the same definition, if this
definition is walked alike wherever it is opened.
-/
theorem Member.walk_reference_congr
    (same : ∀ name, ref.target? = some name → first.get? name = second.get? name)
    (below : ∀ name target,
      first.Resolves ref name target → name ∉ chain
      → target.walk first (name :: chain) = target.walk second (name :: chain))
    : Member.walk first chain (.reference ref) = Member.walk second chain (.reference ref) := by
  by_cases resolves : ∃ name target, first.Resolves ref name target
  · obtain ⟨name, target, resolved⟩ := resolves
    have alike : second.Resolves ref name target :=
      ⟨resolved.1, (same name resolved.1).symm.trans resolved.2⟩
    by_cases opened : name ∈ chain
    · rw [Member.walk_of_open resolved opened, Member.walk_of_open alike opened]
    · rw [Member.walk_of_fresh resolved opened, Member.walk_of_fresh alike opened]
      exact below name target resolved opened
  · rw [Member.walk, Member.walk]
    split
    · rfl
    · next name named =>
        have missing : first.get? name = none := by
          rw [Option.eq_none_iff_forall_ne_some]
          intro target found
          exact resolves ⟨name, target, named, found⟩
        have alsoMissing : second.get? name = none := (same name named).symm.trans missing
        split
        · split
          · rfl
          · next found => cases alsoMissing.symm.trans found
        · next found => cases missing.symm.trans found

/-- Documents that agree on all that is asked for are walked alike, by induction over what the
walk opens.
-/
theorem Definition.walk_congr (agree : first.AgreesFrom second definition)
    : definition.walk first chain = definition.walk second chain := by
  induction chain, definition using first.opening_induction with
  | step chain definition ih =>
      apply Definition.walk_congr_references
      intro ref cited
      apply Member.walk_reference_congr
      · intro name named
        exact agree.get?_eq cited named
      · intro name target resolved fresh
        exact ih chain ref name target (List.Subset.refl _) cited resolved fresh
          (agree.behind cited resolved)

theorem Definition.declaration?_congr (agree : first.AgreesFrom second definition)
    (name : String)
    : definition.declaration? first name = definition.declaration? second name := by
  unfold Definition.declaration? Definition.fields Definition.metProperties
  rw [Definition.walk_congr agree]

end

-----------------------------------------------------------------------------------------
-- Documents in another order and with other definitions
-----------------------------------------------------------------------------------------

/-- The order of the definitions plays no part in looking them up. -/
theorem Document.get?_eq_of_perm {first second : Document}
    (permuted : second.definitions.Perm first.definitions) (name : String)
    : first.get? name = second.get? name := by
  apply Option.ext
  intro definition
  rw [Document.get?_eq_some_iff, Document.get?_eq_some_iff, permuted.mem_iff]

theorem Document.get?_insert (document : Document) (edited : String)
    (replacement : Definition) (name : String)
    : (document.insert edited replacement).get? name
      = if name = edited then some replacement else document.get? name :=
  Entries.find?_put edited name replacement document.definitions

/-- A name that nobody asks for may get any definition. -/
theorem Document.agreesFrom_insert {document : Document} {definition : Definition}
    {edited : String} (unasked : ¬ document.Asks definition edited)
    (replacement : Definition)
    : document.AgreesFrom (document.insert edited replacement) definition := by
  intro name asks
  have other : name ≠ edited := by
    rintro rfl
    exact unasked asks
  rw [Document.get?_insert, if_neg other]

/-- The declarations of a permuted document are those of its definitions in the document. -/
theorem Document.declarations_of_perm {document permuted : Document}
    (same : permuted.definitions.Perm document.definitions)
    : permuted.declarations
      = permuted.definitions.filterMap fun (name, definition) =>
          definition.declaration? document name := by
  unfold Document.declarations
  congr 1
  funext ⟨name, definition⟩
  apply Definition.declaration?_congr
  intro asked _
  exact Document.get?_eq_of_perm same.symm asked

/-- The declaration of a definition is settled by the names that are asked for from it. So
another order of a document's definitions is the same order of the declarations and changes
none of them, and a definition that nothing in reach asks for may be added or edited.
-/
theorem Definition.declaration?_by_reach
    : (∀ first second : Document,
        ∀ definition name,
          first.AgreesFrom second definition
          → definition.declaration? first name = definition.declaration? second name)
      ∧ (∀ document permuted : Document,
          permuted.definitions.Perm document.definitions
          → permuted.declarations
              = (permuted.definitions.filterMap fun (name, definition) =>
                  definition.declaration? document name)
            ∧ permuted.declarations.Perm document.declarations)
      ∧ ∀ (document : Document) definition name edited replacement,
          ¬ document.Asks definition edited
          → definition.declaration? (document.insert edited replacement) name
            = definition.declaration? document name := by
  refine ⟨fun first second definition name agree => declaration?_congr agree name, ?_, ?_⟩
  · intro document permuted same
    have declared := Document.declarations_of_perm same
    refine ⟨declared, ?_⟩
    rw [declared]
    exact same.filterMap _
  · intro document definition name edited replacement unasked
    exact (declaration?_congr (Document.agreesFrom_insert unasked replacement) name).symm

/-- From B on the stairs only A is reached and asked for. -/
theorem stairs_asks {name : String} (asks : stairs.Asks (linked "b" ["A"]) name)
    : name = "A" := by
  have toA : (Reference.mk ("#/definitions/" ++ "A")).target? = some "A" := rfl
  have namedByB {name : String} (names : (linked "b" ["A"]).Names name) : name = "A" := by
    obtain ⟨ref, cited, named⟩ := names
    obtain ⟨key, member, rfl⟩ := cites_linked cited
    cases List.mem_singleton.mp member
    exact (Option.some.inj (toA.symm.trans named)).symm
  have citedByA {ref : Reference} (cited : (linked "a" []).Cites ref) : False := by
    obtain ⟨key, member, _⟩ := cites_linked cited
    cases member
  have foundA {target : Definition} (found : stairs.get? "A" = some target)
      : target = linked "a" [] :=
    (Option.some.inj found).symm
  rcases asks with names | ⟨reached, target, leads, found, names⟩
  · exact namedByB names
  · exfalso
    cases leads with
    | direct cited resolved _ =>
        cases namedByB ⟨_, cited, resolved.1⟩
        cases foundA found
        obtain ⟨ref, cited, _⟩ := names
        exact citedByA cited
    | onward cited resolved _ further =>
        cases namedByB ⟨_, cited, resolved.1⟩
        cases foundA resolved.2
        cases further with
        | direct cited _ _ => exact citedByA cited
        | onward cited _ _ _ => exact citedByA cited

/-- The stairs from above. -/
def stairsDown : Document where
  definitions := [("C", linked "c" ["B", "A"]), ("B", linked "b" ["A"]), ("A", linked "a" [])]
  distinct := by decide

/-- B on the stairs stays as it is when C is edited and when the stairs are turned over. -/
theorem Definition.declaration?_by_reach_stairs
    : ¬ stairs.Asks (linked "b" ["A"]) "C"
      ∧ (linked "b" ["A"]).declaration? (stairs.insert "C" (linked "z" ["B"])) "B"
        = (linked "b" ["A"]).declaration? stairs "B"
      ∧ stairs.AgreesFrom stairsDown (linked "b" ["A"])
      ∧ (linked "b" ["A"]).declaration? stairs "B"
        = (linked "b" ["A"]).declaration? stairsDown "B"
      ∧ stairsDown.definitions.Perm stairs.definitions
      ∧ stairsDown.declarations.Perm stairs.declarations := by
  obtain ⟨byAgreement, byOrder, byEdit⟩ := Definition.declaration?_by_reach
  have unasked : ¬ stairs.Asks (linked "b" ["A"]) "C" := by
    intro asks
    exact absurd (stairs_asks asks) (by decide)
  have agree : stairs.AgreesFrom stairsDown (linked "b" ["A"]) := by
    intro name asks
    cases stairs_asks asks
    rfl
  have turned : stairsDown.definitions.Perm stairs.definitions :=
    List.reverse_perm stairs.definitions
  exact ⟨unasked, byEdit _ _ _ _ _ unasked, agree, byAgreement _ _ _ _ agree, turned,
    (byOrder _ _ turned).2⟩

end RecordSmith
