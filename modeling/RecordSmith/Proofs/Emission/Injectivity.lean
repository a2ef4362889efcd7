import RecordSmith.Proofs.Composition.KeepFirst
import RecordSmith.Proofs.Emission.Layout
import RecordSmith.Proofs.Target.Declarations

/-! Code tells the records that it was written from: equal code is cut into equal blocks, equal
blocks into equal lines, and equal lines have equal comments, names and shown fields.
-/

namespace RecordSmith

/-- The two records have the same name and comment, and the same fields in the target. -/
structure Declaration.LooksLike (target : Target) (record other : Declaration) : Prop where
  name : record.name = other.name
  comment : record.comment = other.comment
  shownFields : record.shownFields target = other.shownFields target

theorem Target.comment_inj {target : Target} {text other : String}
    (same : target.comment text = target.comment other)
    : text = other := by
  have bare : ∀ line : String, "#" ≠ "# " ++ line := by
    intro line equal
    simpa using congrArg String.toList equal
  unfold Target.comment at same
  split at same <;> split at same
  · next empty otherEmpty =>
      rw [String.isEmpty_iff.mp empty, String.isEmpty_iff.mp otherEmpty]
  · exact absurd same (bare other)
  · exact absurd same.symm (bare text)
  · simpa using same

theorem Declaration.OnLines.looksLike_of_text {target : Target} {record other : Declaration}
    (onLines : record.OnLines) (otherOnLines : other.OnLines)
    (same : record.text target = other.text target)
    : record.LooksLike target other := by
  have lines : record.textLines target = other.textLines target := by
    rw [← onLines.feedLines_text, ← otherOnLines.feedLines_text, same]
  rw [Declaration.textLines, Declaration.textLines, onLines.shownComment_eq,
    otherOnLines.shownComment_eq] at lines
  obtain ⟨comments, last⟩ := List.append_inj' lines rfl
  have declared := List.singleton_inj.mp last
  have names := Target.name_eq_of_declaration_eq declared
  rw [names] at declared
  have fields := Target.fields_eq_of_declaration_eq declared
  exact ⟨names, List.map_injective_iff.mpr (fun _ _ => Target.comment_inj) comments, fields⟩

/-- Equal code has equal blocks. Without records there is no code at all. -/
theorem texts_eq_of_code_eq {target : Target} {records others : List Declaration}
    (onLines : ∀ record ∈ records, record.OnLines)
    (othersOnLines : ∀ other ∈ others, other.OnLines)
    (same : target.code records = target.code others)
    : records.map (·.text target) = others.map (·.text target) := by
  by_cases none : records = []
  · have otherNone : others = [] := by
      rw [← Target.code_eq_empty_iff, ← same, Target.code_eq_empty_iff, none]
    rw [none, otherNone]
  · have otherSome : others ≠ [] := by
      intro otherNone
      apply none
      rw [← Target.code_eq_empty_iff, same, Target.code_eq_empty_iff, otherNone]
    rw [Target.code_eq_blockText none, Target.code_eq_blockText otherSome, Text.blockText,
      Text.blockText, String.append_left_inj] at same
    have cut := congrArg Text.paragraphs same
    rw [Text.paragraphs_body (blockLines_ne_nil none) (isBlock_of_mem_blockLines onLines),
      Text.paragraphs_body (blockLines_ne_nil otherSome)
        (isBlock_of_mem_blockLines othersOnLines),
      map_join_blockLines, map_join_blockLines] at cut
    exact List.append_cancel_left cut

theorem looksLike_of_code_eq {target : Target} {records others : List Declaration}
    (onLines : ∀ record ∈ records, record.OnLines)
    (othersOnLines : ∀ other ∈ others, other.OnLines)
    (same : target.code records = target.code others)
    : List.Forall₂ (Declaration.LooksLike target) records others := by
  have texts := texts_eq_of_code_eq onLines othersOnLines same
  rw [← List.forall₂_eq_eq_eq, List.forall₂_map_left_iff, List.forall₂_map_right_iff] at texts
  refine (forall₂_with_mem texts).imp ?_
  rintro record other ⟨among, otherAmong, text⟩
  exact (onLines record among).looksLike_of_text (othersOnLines other otherAmong) text

/-- In Ruby a record of a document shows its fields as they are. -/
theorem Document.shownFields_ruby {document : Document} {record : Declaration}
    (member : record ∈ document.declarations)
    : record.shownFields .ruby = record.fields := by
  obtain ⟨⟨name, definition⟩, _, declared⟩ := List.mem_filterMap.mp member
  obtain ⟨_, _, _, fields⟩ := Definition.declaration?_eq_some_iff.mp declared
  have unmapped : record.fields.map (Target.fieldName .ruby) = record.fields := List.map_id _
  rw [Declaration.shownFields, unmapped, fields, keepFirst_keepFirst]

theorem Declaration.LooksLike.eq_of_ruby {record other : Declaration}
    (alike : record.LooksLike .ruby other) (own : record.shownFields .ruby = record.fields)
    (otherOwn : other.shownFields .ruby = other.fields)
    : record = other := by
  obtain ⟨names, comments, fields⟩ := alike
  rw [own, otherOwn] at fields
  cases record
  cases other
  simp_all

/-- Documents with the same code have as many records, with pairwise the same names, comments
and shown fields; in Ruby the records are the same.
-/
theorem Document.code_determines_records (target : Target) (document other : Document)
    (names : document.NamesSingle) (otherNames : other.NamesSingle)
    (same : target.code document.declarations = target.code other.declarations)
    : document.declarations.length = other.declarations.length
      ∧ List.Forall₂ (Declaration.LooksLike target) document.declarations other.declarations
      ∧ (target = .ruby → document.declarations = other.declarations) := by
  have alike := looksLike_of_code_eq (fun _ => Document.onLines_of_mem_declarations names)
    (fun _ => Document.onLines_of_mem_declarations otherNames) same
  refine ⟨alike.length_eq, alike, ?_⟩
  rintro rfl
  rw [← List.forall₂_eq_eq_eq]
  refine (forall₂_with_mem alike).imp ?_
  rintro record record' ⟨among, otherAmong, both⟩
  exact both.eq_of_ruby (Document.shownFields_ruby among) (Document.shownFields_ruby otherAmong)

/-- A document of one record with one field. -/
def oneField (property : String) : Document where
  definitions := [("Kind", linked property [])]
  distinct := by simp [Entries.names]

theorem declarations_oneField (property : String)
    : (oneField property).declarations = [⟨"Kind", [], [Text.snakeCase property]⟩] := by
  simp [oneField, linked, Document.declarations, Definition.declaration?, Definition.isRecord,
    Definition.comment, Definition.caption, Member.firstCaption, Definition.fields,
    Definition.metProperties, Definition.walk, Member.walkAll, Definition.members,
    Definition.propertyNames, Step.property?, keepFirst]

theorem namesSingle_oneField {property : String} (single : Text.Single property)
    : (oneField property).NamesSingle := by
  intro name definition found
  rw [Document.get?_eq_some_iff] at found
  simp only [oneField, List.mem_singleton, Prod.mk.injEq] at found
  obtain ⟨rfl, rfl⟩ := found
  refine ⟨by decide, ?_⟩
  rintro other ⟨part, within, listed⟩
  cases within with
  | self =>
      cases List.mem_singleton.mp listed
      exact single
  | nested member _ => simp [linked, Definition.members] at member

/-- Two records with different fields, which look alike in Python. -/
theorem Document.code_determines_records_oneField
    : (oneField "class").declarations ≠ (oneField "Class_").declarations
      ∧ Target.python.code (oneField "class").declarations
        = Target.python.code (oneField "Class_").declarations
      ∧ List.Forall₂ (Declaration.LooksLike .python) (oneField "class").declarations
          (oneField "Class_").declarations := by
  have same : Target.python.code (oneField "class").declarations
      = Target.python.code (oneField "Class_").declarations := by
    rw [declarations_oneField, declarations_oneField]
    decide +kernel
  refine ⟨?_, same, (Document.code_determines_records .python _ _
    (namesSingle_oneField (by decide)) (namesSingle_oneField (by decide)) same).2.1⟩
  rw [declarations_oneField, declarations_oneField]
  decide

end RecordSmith
