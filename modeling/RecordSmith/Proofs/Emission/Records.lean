import RecordSmith.Output
import RecordSmith.Proofs.Composition.Reachability
import RecordSmith.Proofs.Target.Identifiers
import RecordSmith.Proofs.Text.Single

/-! The lines of a record in each target. When no name of a document holds a line feed, the
text of each of its records is a block: comment lines, and its declaration on a line of its own.
-/

namespace RecordSmith

open RecordSmith.Text (Single Trimmed IsLine IsBlock feedLines paragraphs)

-----------------------------------------------------------------------------------------
-- Declarations and comments in a target
-----------------------------------------------------------------------------------------

theorem Ruby.single_symbol {field : String} (single : Single field)
    : Single (Ruby.symbol field) := by
  unfold Ruby.symbol
  split
  · exact Single.append (by decide) single
  · exact Single.append (by decide) single.quoted

theorem Ruby.isLine_declaration {name : String} {fields : List String}
    (single : Single name) (singles : ∀ field ∈ fields, Single field)
    : IsLine (Ruby.declaration name fields) := by
  unfold Ruby.declaration
  split
  · exact ⟨by simp, single.append (by decide), .behind (by decide) (by decide)⟩
  · have symbols : ∀ symbol ∈ fields.map Ruby.symbol, Single symbol := by
      intro symbol member
      obtain ⟨field, among, rfl⟩ := List.mem_map.mp member
      exact Ruby.single_symbol (singles field among)
    exact ⟨by simp,
      ((single.append (by decide)).append (.join (by decide) symbols)).append (by decide),
      .behind (by decide) (by decide)⟩

theorem Python.single_identifier (name : String) : Single (Python.identifier name) := by
  intro member
  rcases Python.mem_identifier member with letter | underscore
  · revert letter
    decide
  · cases underscore

theorem Python.isLine_declaration {name : String} {fields : List String}
    (single : Single name) (singles : ∀ field ∈ fields, Single field)
    : IsLine (Python.declaration name fields) := by
  have literals : ∀ literal ∈ fields.map Text.quoted, Single literal := by
    intro literal member
    obtain ⟨field, among, rfl⟩ := List.mem_map.mp member
    exact (singles field among).quoted
  exact ⟨by simp [Python.declaration],
    ((((single.append (by decide)).append single.quoted).append (by decide)).append
      (.join (by decide) literals)).append (by decide),
    .behind (by decide) (by decide)⟩

theorem Target.isLine_declaration {target : Target} {name : String} {fields : List String}
    (single : Single name) (singles : ∀ field ∈ fields, Single field)
    : IsLine (target.declaration name fields) := by
  cases target with
  | ruby => exact Ruby.isLine_declaration single singles
  | python => exact Python.isLine_declaration single singles

theorem Target.single_fieldName {target : Target} {field : String} (single : Single field)
    : Single (target.fieldName field) := by
  cases target with
  | ruby => exact single
  | python => exact Python.single_identifier field

theorem Target.isLine_comment {target : Target} {line : String} (single : Single line)
    (trimmed : Trimmed line)
    : IsLine (target.comment line) := by
  unfold Target.comment
  split
  · exact ⟨by decide, by decide, by decide⟩
  · next some =>
      have held : line ≠ "" := by simpa using some
      exact ⟨by simp, Single.append (by decide) single, .behind held trimmed⟩

theorem Target.head?_comment (target : Target) (line : String)
    : (target.comment line).toList.head? = some '#' := by
  unfold Target.comment
  split
  · rfl
  · simp

-----------------------------------------------------------------------------------------
-- Lines of a record
-----------------------------------------------------------------------------------------

/-- The name and the fields hold no line feed, and the comment is made of trimmed lines. -/
structure Declaration.OnLines (record : Declaration) : Prop where
  name : Single record.name
  fields : ∀ field ∈ record.fields, Single field
  comment : ∀ line ∈ record.comment, Single line ∧ Trimmed line

/-- The lines of a record in a target, of which its text is made. -/
def Declaration.textLines (target : Target) (record : Declaration) : List String :=
  record.shownComment target ++ [target.declaration record.name (record.shownFields target)]

section

variable {target : Target} {record : Declaration}

/-- Trimming changes no comment line of a record. -/
theorem Declaration.shownComment_of_trimmed
    (trimmed : ∀ line ∈ record.comment, Single line ∧ Trimmed line)
    : record.shownComment target = record.comment.map target.comment := by
  apply List.map_congr_left
  intro line among
  obtain ⟨single, ends⟩ := trimmed line among
  exact Text.trimEnd_eq (Target.isLine_comment single ends).trimmed

theorem Declaration.OnLines.shownComment_eq (onLines : record.OnLines)
    : record.shownComment target = record.comment.map target.comment :=
  Declaration.shownComment_of_trimmed onLines.comment

theorem Declaration.OnLines.single_shownFields (onLines : record.OnLines)
    : ∀ field ∈ record.shownFields target, Single field := by
  intro field member
  obtain ⟨raw, among, rfl⟩ := List.mem_map.mp (mem_keepFirst.mp member)
  exact Target.single_fieldName (onLines.fields raw among)

theorem Declaration.OnLines.isBlock (onLines : record.OnLines)
    : IsBlock (record.textLines target) := by
  refine ⟨by simp [Declaration.textLines], ?_⟩
  intro line member
  rw [Declaration.textLines, onLines.shownComment_eq] at member
  rcases List.mem_append.mp member with inComment | last
  · obtain ⟨text, among, rfl⟩ := List.mem_map.mp inComment
    obtain ⟨single, trimmed⟩ := onLines.comment text among
    exact Target.isLine_comment single trimmed
  · cases List.mem_singleton.mp last
    exact Target.isLine_declaration onLines.name onLines.single_shownFields

theorem Declaration.OnLines.feedLines_text (onLines : record.OnLines)
    : feedLines (record.text target) = record.textLines target :=
  Text.feedLines_join onLines.isBlock.nonempty
    fun line among => (onLines.isBlock.isLine line among).single

end

-----------------------------------------------------------------------------------------
-- Records of a document
-----------------------------------------------------------------------------------------

/-- No definition name and no property name of the document holds a line feed. -/
def Document.NamesSingle (document : Document) : Prop :=
  ∀ name definition,
    document.get? name = some definition
    → Single name ∧ ∀ property, definition.Lists property → Single property

theorem commentLines_onLines {text line : String} (member : line ∈ commentLines text)
    : Single line ∧ Trimmed line := by
  have among : line ∈ (Text.lines text).map Text.trimEnd := by
    rw [commentLines, dropEmptyEnd, List.mem_reverse] at member
    exact List.mem_reverse.mp ((List.dropWhile_sublist _).mem member)
  obtain ⟨raw, inText, rfl⟩ := List.mem_map.mp among
  exact ⟨(Text.single_of_mem_lines inText).trimEnd, Text.trimmed_trimEnd raw⟩

theorem Definition.comment_onLines {definition : Definition} {line : String}
    (member : line ∈ definition.comment)
    : Single line ∧ Trimmed line := by
  rw [Definition.comment] at member
  split at member
  · cases member
  · exact commentLines_onLines member

theorem Definition.single_fields {document : Document} {name : String}
    {definition : Definition} (names : document.NamesSingle)
    (found : document.get? name = some definition)
    : ∀ property ∈ definition.fields document (some name), Single property := by
  intro property member
  rcases Definition.mem_fields.mp member with listed | ⟨_, _, _, otherFound, listed⟩
  · exact (names name definition found).2 property listed
  · exact (names _ _ otherFound).2 property listed

theorem Definition.declaration?_eq_some_iff {document : Document} {name : String}
    {definition : Definition} {record : Declaration}
    : definition.declaration? document name = some record
      ↔ definition.isRecord
        ∧ record.name = name
        ∧ record.comment = definition.comment
        ∧ record.fields
          = keepFirst ((definition.fields document (some name)).map Text.snakeCase) := by
  unfold Definition.declaration?
  constructor
  · intro declared
    split at declared
    · next becomes =>
        cases declared
        exact ⟨becomes, rfl, rfl, rfl⟩
    · cases declared
  · rintro ⟨becomes, named, commented, fielded⟩
    rw [if_pos becomes, ← fielded, ← commented, ← named]

theorem Definition.onLines_of_declaration? {document : Document} {name : String}
    {definition : Definition} {record : Declaration} (names : document.NamesSingle)
    (found : document.get? name = some definition)
    (declared : definition.declaration? document name = some record)
    : record.OnLines := by
  obtain ⟨_, named, comment, fields⟩ := Definition.declaration?_eq_some_iff.mp declared
  refine ⟨?_, ?_, ?_⟩
  · rw [named]
    exact (names name definition found).1
  · rw [fields]
    intro field member
    obtain ⟨property, among, rfl⟩ := List.mem_map.mp (mem_keepFirst.mp member)
    exact (Definition.single_fields names found property among).snakeCase
  · rw [comment]
    exact fun line => Definition.comment_onLines

theorem Document.onLines_of_mem_declarations {document : Document} {record : Declaration}
    (names : document.NamesSingle) (member : record ∈ document.declarations)
    : record.OnLines := by
  obtain ⟨⟨name, definition⟩, among, declared⟩ := List.mem_filterMap.mp member
  exact Definition.onLines_of_declaration? names (Document.get?_eq_some_iff.mpr among) declared

end RecordSmith
