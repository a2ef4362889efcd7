import RecordSmith.Proofs.Emission.Comments

/-! The normal form of comments. The comment of a record is made from the first description of its
definition and the inline fragments. Its lines are a normal form, which is made once and read back
from the rendered lines.
-/

namespace RecordSmith

open RecordSmith.Text (Single Trimmed feedLines trimEndChars)

-----------------------------------------------------------------------------------------
-- The first description
-----------------------------------------------------------------------------------------

mutual

/-- The definition and its inline fragments, each in front of those nested in it and from left to
right.
-/
def Definition.outline (definition : Definition) : List Definition :=
  definition :: Member.outlineOfAll definition.members
termination_by sizeOf definition
decreasing_by exact definition.sizeOf_members

/-- The inline fragments of a composition list. References have none. -/
def Member.outlineOfAll : List Member → List Definition
  | [] => []
  | .reference _ :: rest => Member.outlineOfAll rest
  | .inline fragment :: rest => fragment.outline ++ Member.outlineOfAll rest
termination_by members => sizeOf members

end

mutual

/-- The caption is the first description of the outline, by induction over the nesting. -/
theorem Definition.caption_eq_outline (definition : Definition)
    : definition.caption = definition.outline.findSome? (·.description) := by
  have smaller := definition.sizeOf_members
  rw [Definition.caption, Definition.outline, List.findSome?_cons,
    Member.firstCaption_eq_outline definition.members]
  cases definition.description <;> rfl
termination_by sizeOf definition

theorem Member.firstCaption_eq_outline (members : List Member)
    : Member.firstCaption members
      = (Member.outlineOfAll members).findSome? (·.description) := by
  match members with
  | [] => rw [Member.firstCaption, Member.outlineOfAll, List.findSome?_nil]
  | .reference _ :: rest =>
      rw [Member.firstCaption, Member.outlineOfAll, Member.firstCaption_eq_outline rest]
  | .inline fragment :: rest =>
      rw [Member.firstCaption, Member.outlineOfAll, List.findSome?_append,
        Definition.caption_eq_outline fragment, Member.firstCaption_eq_outline rest]
      cases fragment.outline.findSome? (·.description) <;> rfl
termination_by sizeOf members

end

-----------------------------------------------------------------------------------------
-- Normal lines
-----------------------------------------------------------------------------------------

/-- Lines of a comment in normal form: none holds a line feed or ends in white space, and the last
is not empty.
-/
structure IsNormalComment (lines : List String) : Prop where
  single : ∀ line ∈ lines, Single line
  trimmed : ∀ line ∈ lines, Trimmed line
  last : lines.getLast? ≠ some ""

theorem getLast?_dropEmptyEnd (texts : List String)
    : (dropEmptyEnd texts).getLast? ≠ some "" := by
  intro last
  rw [dropEmptyEnd, List.getLast?_reverse] at last
  have stops := List.head?_dropWhile_not String.isEmpty texts.reverse
  rw [last] at stops
  cases stops

theorem dropEmptyEnd_eq {texts : List String} (last : texts.getLast? ≠ some "")
    : dropEmptyEnd texts = texts := by
  apply List.rdropWhile_eq_self_iff.mpr
  intro held empty
  apply last
  rw [List.getLast?_eq_some_getLast held, String.isEmpty_iff.mp empty]

/-- Only empty texts are dropped. -/
theorem exists_dropEmptyEnd (texts : List String)
    : ∃ count, texts = dropEmptyEnd texts ++ List.replicate count "" := by
  have parts := List.takeWhile_append_dropWhile (p := String.isEmpty) (l := texts.reverse)
  refine ⟨(texts.reverse.takeWhile String.isEmpty).length, ?_⟩
  have empties : texts.reverse.takeWhile String.isEmpty
      = List.replicate (texts.reverse.takeWhile String.isEmpty).length "" := by
    rw [List.eq_replicate_iff]
    exact ⟨rfl, fun text member => String.isEmpty_iff.mp (List.mem_takeWhile_imp member)⟩
  have whole := congrArg List.reverse parts
  rw [List.reverse_append, List.reverse_reverse, empties, List.reverse_replicate] at whole
  exact whole.symm

theorem isNormalComment_commentLines (text : String)
    : IsNormalComment (commentLines text) where
  single := fun _ member => (commentLines_onLines member).1
  trimmed := fun _ member => (commentLines_onLines member).2
  last := getLast?_dropEmptyEnd _

/-- Normal lines are the comment lines of the text that they make. -/
theorem IsNormalComment.commentLines_join {lines : List String} (normal : IsNormalComment lines)
    : commentLines (Text.join "\n" lines) = lines := by
  by_cases held : lines = []
  · subst held
    rfl
  · have trimmed : lines.map Text.trimEnd = lines :=
      calc
        lines.map Text.trimEnd = lines.map id :=
          List.map_congr_left fun line member => Text.trimEnd_eq (normal.trimmed line member)
        _ = lines := List.map_id lines
    rw [commentLines_eq, Text.feedLines_join held normal.single, trimmed,
      dropEmptyEnd_eq normal.last]

-----------------------------------------------------------------------------------------
-- Ends of lines
-----------------------------------------------------------------------------------------

namespace Text

/-- The characters with a line feed in place of each carriage return and line feed. -/
def unifyEndsOf : List Char → List Char
  | [] => []
  | '\r' :: '\n' :: rest => '\n' :: unifyEndsOf rest
  | c :: rest => c :: unifyEndsOf rest

/-- The text with a line feed in place of each carriage return and line feed. -/
def unifyEnds (text : String) : String :=
  String.ofList (unifyEndsOf text.toList)

theorem map_trimEndChars_modifyHead {parts others : List (List Char)}
    (same : parts.map trimEndChars = others.map trimEndChars) (c : Char)
    : (parts.modifyHead (c :: ·)).map trimEndChars
      = (others.modifyHead (c :: ·)).map trimEndChars := by
  cases parts with
  | nil =>
      cases others with
      | nil => rfl
      | cons => cases same
  | cons part parts =>
      cases others with
      | nil => cases same
      | cons other others =>
          simp only [List.map_cons, List.cons.injEq] at same
          rw [List.modifyHead_cons, List.modifyHead_cons, List.map_cons, List.map_cons, same.2,
            trimEndChars_cons_congr same.1]

/-- The carriage returns that are left out stand at the ends of parts. -/
theorem map_trimEndChars_unifyEndsOf (cs : List Char)
    : ((unifyEndsOf cs).splitOn '\n').map trimEndChars = (cs.splitOn '\n').map trimEndChars := by
  fun_induction unifyEndsOf cs with
  | case1 => rfl
  | case2 rest ih =>
      rw [splitOn_feed, splitOn_feed_cons (by decide), splitOn_feed, List.modifyHead_cons,
        List.map_cons, List.map_cons, ih]
      rfl
  | case3 c rest _ ih =>
      by_cases feed : c = '\n'
      · subst feed
        rw [splitOn_feed, splitOn_feed, List.map_cons, List.map_cons, ih]
      · rw [splitOn_feed_cons feed, splitOn_feed_cons feed]
        exact map_trimEndChars_modifyHead ih c

theorem map_trimEnd_unifyEnds (text : String)
    : (feedLines (unifyEnds text)).map trimEnd = (feedLines text).map trimEnd := by
  have same := congrArg (List.map String.ofList) (map_trimEndChars_unifyEndsOf text.toList)
  simpa [feedLines, unifyEnds, trimEnd, Function.comp_def] using same

theorem feedLines_join_concat {lines : List String} (single : ∀ line ∈ lines, Single line)
    (last : String)
    : feedLines (join "\n" (lines ++ [last])) = lines ++ feedLines last := by
  by_cases held : lines = []
  · subst held
    rfl
  · rw [join_append held (by simp), feedLines_append_feed, feedLines_join held single]
    rfl

end Text

theorem commentLines_unifyEnds (text : String)
    : commentLines (Text.unifyEnds text) = commentLines text := by
  rw [commentLines_eq, commentLines_eq, Text.map_trimEnd_unifyEnds]

-----------------------------------------------------------------------------------------
-- Reading comments back
-----------------------------------------------------------------------------------------

/-- What a comment line says: nothing behind a number sign alone, and else what follows the number
sign and a blank.
-/
def uncomment? (line : String) : Option String :=
  match line.toList with
  | ['#'] => some ""
  | '#' :: ' ' :: text => some (String.ofList text)
  | _ => none

theorem Target.uncomment?_comment (target : Target) (line : String)
    : uncomment? (target.comment line) = some line := by
  unfold Target.comment
  split
  · next empty =>
      rw [String.isEmpty_iff.mp empty]
      rfl
  · simp [uncomment?]

theorem Declaration.uncomment?_text (target : Target) (record : Declaration)
    (normal : IsNormalComment record.comment)
    : ((feedLines (record.text target)).take record.comment.length).map uncomment?
      = record.comment.map some := by
  have onLines : ∀ line ∈ record.comment, Single line ∧ Trimmed line :=
    fun line member => ⟨normal.single line member, normal.trimmed line member⟩
  have singles : ∀ line ∈ record.comment.map target.comment, Single line := by
    rw [List.forall_mem_map]
    intro line member
    exact (Target.isLine_comment (normal.single line member) (normal.trimmed line member)).single
  rw [Declaration.text, Declaration.shownComment_of_trimmed onLines,
    Text.feedLines_join_concat singles, List.take_left' (by simp), List.map_map]
  exact List.map_congr_left fun line _ => target.uncomment?_comment line

/-- The comment of a record is the normal form of the first description in the outline of its
definition, and empty without one. The normal form is made of the trimmed lines of a text, without
the empty ones at the end. It is its own normal form, it is the same for both ends of lines, and the
first lines of the record's text say it.
-/
theorem Definition.comment_in_normalForm
    : (∀ (document : Document) (name : String) (definition : Definition),
        definition.isRecord
        → ∃ record,
            definition.declaration? document name = some record
            ∧ record.comment
              = (definition.outline.findSome? (·.description)).elim [] commentLines)
      ∧ ∀ text,
          (∃ count,
            (Text.lines text).map Text.trimEnd
            = commentLines text ++ List.replicate count "")
          ∧ IsNormalComment (commentLines text)
          ∧ commentLines (Text.join "\n" (commentLines text)) = commentLines text
          ∧ commentLines (Text.unifyEnds text) = commentLines text
          ∧ ∀ target name fields,
              ((feedLines (Declaration.text target ⟨name, commentLines text, fields⟩)).take
                (commentLines text).length).map uncomment?
              = (commentLines text).map some := by
  refine ⟨?_, ?_⟩
  · intro document name definition becomes
    refine ⟨_, if_pos becomes, ?_⟩
    rw [← Definition.caption_eq_outline, Definition.comment]
    cases definition.caption <;> rfl
  · intro text
    have normal := isNormalComment_commentLines text
    exact ⟨exists_dropEmptyEnd _, normal, normal.commentLines_join, commentLines_unifyEnds text,
      fun target name fields => Declaration.uncomment?_text target ⟨name, _, fields⟩ normal⟩

/-- A description with both ends of lines, a line of white space and blank lines at its end. -/
def mixedEnds : String :=
  "One. \r\n\u3000\n\t# Two.\n\r\n"

/-- A definition that has its description from the second of its nested fragments. The reference in
front of them lends none, and what comes later does not count.
-/
def annotated : Definition where
  description := none
  properties := none
  composition := some
    [.reference ⟨"#/definitions/Kind"⟩,
      .inline
        { description := none
          properties := none
          composition := some
            [.inline ⟨none, some ["key"], none⟩, .inline ⟨some mixedEnds, none, none⟩] },
      .inline ⟨some "Later.", none, none⟩]

/-- The comment has three lines, of which the second is empty and the third holds a number sign. -/
theorem Definition.comment_in_normalForm_annotated
    : annotated.isRecord
      ∧ ∃ record,
          annotated.declaration? (remarks "Lent.") "Note" = some record
          ∧ record.comment = ["One.", "", "\t# Two."]
          ∧ ((feedLines (record.text .python)).take 3).map uncomment?
            = ["One.", "", "\t# Two."].map some := by
  obtain ⟨comments, forms⟩ := Definition.comment_in_normalForm
  obtain ⟨⟨name, comment, fields⟩, declared, same⟩ :=
    comments (remarks "Lent.") "Note" annotated rfl
  obtain ⟨_, _, _, _, readBack⟩ := forms mixedEnds
  have lines : commentLines mixedEnds = ["One.", "", "\t# Two."] := by decide +kernel
  have first : annotated.outline.findSome? (·.description) = some mixedEnds := by
    simp [annotated, Definition.outline, Member.outlineOfAll, Definition.members]
  rw [first, Option.elim_some, lines] at same
  rw [lines] at readBack
  cases same
  exact ⟨rfl, _, declared, rfl, readBack .python name fields⟩

end RecordSmith
