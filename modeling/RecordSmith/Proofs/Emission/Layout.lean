import Mathlib.Data.List.Forall2
import RecordSmith.Proofs.Emission.Records

/-! The layout of generated code. Each record is a block of lines, neighbouring blocks have one
empty line between them, and cutting the code at its double line feeds gives back the blocks.
-/

namespace RecordSmith

open RecordSmith.Text (Trimmed IsBlock blockText feedLines paragraphs)

-----------------------------------------------------------------------------------------
-- Code as blocks of lines
-----------------------------------------------------------------------------------------

/-- The lines of each block of a text: of the heading if there is one, then of the records. -/
def blockLines (target : Target) (records : List Declaration) : List (List String) :=
  target.heading?.toList.map ([·]) ++ records.map (·.textLines target)

theorem Target.trimEnd_heading? (target : Target)
    : target.heading?.map Text.trimEnd = target.heading? := by
  cases target with
  | ruby => rfl
  | python => exact congrArg some (Text.trimEnd_eq (by decide))

theorem Target.isBlock_heading {target : Target} {heading : String}
    (held : heading ∈ target.heading?)
    : IsBlock [heading] := by
  cases target with
  | ruby => cases held
  | python =>
      cases held
      refine ⟨by simp, ?_⟩
      intro line member
      cases List.mem_singleton.mp member
      exact ⟨by decide, by decide, by decide⟩

section

variable {target : Target} {records : List Declaration}

theorem map_join_blockLines
    : (blockLines target records).map (Text.join "\n")
      = target.heading?.toList ++ records.map (·.text target) := by
  simp only [blockLines, List.map_append, List.map_map]
  congr 1
  exact List.map_id'' (fun _ => rfl) _

theorem blockLines_ne_nil (some : records ≠ []) : blockLines target records ≠ [] := by
  simp [blockLines, some]

theorem isBlock_of_mem_blockLines (onLines : ∀ record ∈ records, record.OnLines)
    : ∀ block ∈ blockLines target records, IsBlock block := by
  intro block member
  rcases List.mem_append.mp member with atTop | inRecords
  · obtain ⟨heading, held, rfl⟩ := List.mem_map.mp atTop
    exact Target.isBlock_heading (Option.mem_toList.mp held)
  · obtain ⟨record, among, rfl⟩ := List.mem_map.mp inRecords
    exact (onLines record among).isBlock

theorem Target.code_eq_blockText (some : records ≠ [])
    : target.code records = blockText (blockLines target records) := by
  rw [Target.code, if_neg (by simpa using some), blockText, map_join_blockLines, blocks,
    Target.trimEnd_heading?]

theorem Target.code_eq_empty_iff : target.code records = "" ↔ records = [] := by
  unfold Target.code
  split
  · next none => simpa using none
  · next some =>
      have held : records ≠ [] := by simpa using some
      simp [held]

end

-----------------------------------------------------------------------------------------
-- Blocks of a document
-----------------------------------------------------------------------------------------

/-- The block is the rendering of the named definition: lines that begin with a number sign,
and the definition's declaration as the last line.
-/
def Document.IsRendering (document : Document) (target : Target) (entry : String × Definition)
    (block : String)
    : Prop :=
  ∃ record comments,
    entry.2.declaration? document entry.1 = some record
    ∧ block = record.text target
    ∧ feedLines block = comments ++ [target.declaration entry.1 (record.shownFields target)]
    ∧ ∀ line ∈ comments, line.toList.head? = some '#'

theorem Definition.isSome_declaration? (document : Document) (name : String)
    (definition : Definition)
    : (definition.declaration? document name).isSome = definition.isRecord := by
  cases becomes : definition.isRecord <;> simp [Definition.declaration?, becomes]

theorem forall₂_with_mem {α β : Type} {relation : α → β → Prop} {left : List α}
    {right : List β} (related : List.Forall₂ relation left right)
    : List.Forall₂ (fun a b => a ∈ left ∧ b ∈ right ∧ relation a b) left right := by
  induction related with
  | nil => exact .nil
  | cons here _ ih =>
      refine .cons ⟨.head _, .head _, here⟩ (ih.imp ?_)
      rintro a b ⟨inLeft, inRight, both⟩
      exact ⟨.tail _ inLeft, .tail _ inRight, both⟩

/-- The records of a document are declared in document order, each from its own definition. -/
theorem Document.declarations_forall₂ (document : Document)
    : List.Forall₂ (fun entry record => entry.2.declaration? document entry.1 = some record)
        (document.definitions.filter (·.2.isRecord)) document.declarations := by
  unfold Document.declarations
  generalize document.definitions = entries
  induction entries with
  | nil => exact .nil
  | cons entry rest ih =>
      obtain ⟨name, definition⟩ := entry
      have becomes := definition.isSome_declaration? document name
      cases declared : definition.declaration? document name with
      | none =>
          rw [declared] at becomes
          simpa [declared, ← becomes] using ih
      | some record =>
          rw [declared] at becomes
          simpa [declared, ← becomes] using ih

theorem Document.isRendering_text {document : Document} {target : Target}
    {entry : String × Definition} {record : Declaration} (onLines : record.OnLines)
    (declared : entry.2.declaration? document entry.1 = some record)
    : document.IsRendering target entry (record.text target) := by
  have named : record.name = entry.1 :=
    (Definition.declaration?_eq_some_iff.mp declared).2.1
  refine ⟨record, record.shownComment target, declared, rfl, ?_, ?_⟩
  · rw [onLines.feedLines_text, Declaration.textLines, named]
  · intro line member
    rw [onLines.shownComment_eq] at member
    obtain ⟨text, _, rfl⟩ := List.mem_map.mp member
    exact target.head?_comment text

theorem Document.declarations_eq_nil_iff {document : Document}
    : document.declarations = []
      ↔ ∀ name definition,
          document.get? name = some definition → definition.isRecord = false := by
  have lengths := document.declarations_forall₂.length_eq
  rw [← List.length_eq_zero_iff, ← lengths, List.length_eq_zero_iff, List.filter_eq_nil_iff]
  simp [Document.get?_eq_some_iff]

/-- The code is empty when no definition becomes a record. Otherwise it begins with no line
feed, ends with one, has at most one empty line at a place, and no white space at the end of a
line; and its parts between double line feeds are the heading and one block for each record.
-/
theorem generate_layout (document : Document) (target : Target)
    (names : document.NamesSingle)
    : ((generate document target).code = ""
        ↔ ∀ name definition,
            document.get? name = some definition → definition.isRecord = false)
      ∧ ((generate document target).code ≠ ""
        → ∃ body blocks,
            (generate document target).code = body ++ "\n"
            ∧ (∀ rest, (generate document target).code ≠ "\n" ++ rest)
            ∧ (∀ front, body ≠ front ++ "\n")
            ∧ (∀ before after,
                (generate document target).code ≠ before ++ "\n\n\n" ++ after)
            ∧ (∀ line ∈ feedLines (generate document target).code, Trimmed line)
            ∧ paragraphs body = target.heading?.toList ++ blocks
            ∧ blocks.length = (generate document target).recordCount
            ∧ List.Forall₂ (document.IsRendering target)
                (document.definitions.filter (·.2.isRecord)) blocks) := by
  have code : (generate document target).code = target.code document.declarations := rfl
  rw [code, Target.code_eq_empty_iff, Document.declarations_eq_nil_iff]
  refine ⟨Iff.rfl, ?_⟩
  intro nonempty
  have held : document.declarations ≠ [] := fun none => nonempty (Target.code_eq_empty_iff.mpr none)
  have onLines : ∀ record ∈ document.declarations, record.OnLines :=
    fun record => Document.onLines_of_mem_declarations names
  have filled : blockLines target document.declarations ≠ [] := blockLines_ne_nil held
  have sound : ∀ block ∈ blockLines target document.declarations, IsBlock block :=
    isBlock_of_mem_blockLines onLines
  have cut := Text.paragraphs_body filled sound
  rw [Target.code_eq_blockText held]
  refine ⟨_, document.declarations.map (·.text target), rfl,
    Text.blockText_not_starts filled sound, Text.body_not_ends filled sound,
    Text.blockText_no_gap filled sound, Text.trimmed_of_mem_blockText filled sound, ?_, ?_, ?_⟩
  · exact cut.trans map_join_blockLines
  · simp [generate]
  · rw [List.forall₂_map_right_iff]
    refine (forall₂_with_mem document.declarations_forall₂).imp ?_
    rintro entry record ⟨_, among, declared⟩
    exact Document.isRendering_text (onLines record among) declared

/-- A record whose description has blank lines and ends in white space. -/
def frame : Definition where
  description := none
  properties := some ["frameId"]
  composition := some [.inline
    { description := some "One frame.\n \n  At most one.  \r\n\n"
      properties := some ["from"]
      composition := none }]

/-- Two records, of which one has neither name nor fields, and a definition that is none. -/
def frames : Document where
  definitions :=
    [("Frame", frame), ("Flag", ⟨some "No record.", none, none⟩), ("", ⟨none, none, some []⟩)]
  distinct := by decide

/-- The code has three blocks: the heading and the two records in document order. -/
theorem generate_layout_frames
    : frames.NamesSingle
      ∧ ∃ body first second,
          (generate frames .python).code = body ++ "\n"
          ∧ paragraphs body = [Python.heading, first, second]
          ∧ frames.IsRendering .python ("Frame", frame) first
          ∧ frames.IsRendering .python ("", ⟨none, none, some []⟩) second := by
  have names : frames.NamesSingle := by
    intro name definition found
    rw [Document.get?_eq_some_iff] at found
    simp only [frames, List.mem_cons, Prod.mk.injEq, List.not_mem_nil, or_false] at found
    rcases found with ⟨rfl, rfl⟩ | ⟨rfl, rfl⟩ | ⟨rfl, rfl⟩
    all_goals
      refine ⟨by decide, ?_⟩
      intro property listed
      have piece := Definition.property_mem_pieces.mpr listed
      simp only [frame, Definition.pieces, Definition.members, Definition.propertyNames,
        Member.piecesOfAll, Member.pieces, Option.getD_some, Option.getD_none, List.map_cons,
        List.map_nil, List.append_nil, List.nil_append, List.cons_append, List.mem_cons,
        List.not_mem_nil, Piece.property.injEq, or_false] at piece
    · rcases piece with rfl | rfl
      · decide
      · decide
  obtain ⟨whenEmpty, layout⟩ := generate_layout frames .python names
  have filled : (generate frames .python).code ≠ "" := by
    intro empty
    cases whenEmpty.mp empty "Frame" frame rfl
  obtain ⟨body, blocks, ends, _, _, _, _, cut, _, renderings⟩ := layout filled
  have records : frames.definitions.filter (·.2.isRecord)
      = [("Frame", frame), ("", ⟨none, none, some []⟩)] := rfl
  rw [records] at renderings
  cases renderings with
  | cons first later =>
      cases later with
      | cons second nothing =>
          cases nothing
          exact ⟨names, body, _, _, ends, cut, first, second⟩

end RecordSmith
