import Mathlib.Data.List.DropRight
import RecordSmith.Proofs.Emission.Records
import RecordSmith.Proofs.Text.ProgramLines

/-! Comments of records as lines of a program. A description is cut into comment lines at its line
feeds, while a program also ends a line at a carriage return alone. A carriage return that has more
than white space behind it on its line stays in the comment line, and what follows it leaves the
comment.
-/

namespace RecordSmith

-----------------------------------------------------------------------------------------
-- White space at the end
-----------------------------------------------------------------------------------------

namespace Text

theorem trimEndChars_eq_nil_iff {cs : List Char}
    : trimEndChars cs = [] ↔ cs.all isBlank :=
  List.rdropWhile_eq_nil_iff.trans List.all_eq_true.symm

theorem trimEndChars_front (cs : List Char) : trimEndChars cs <+: cs :=
  List.rdropWhile_prefix isBlank cs

theorem trimEndChars_append (front back : List Char)
    : trimEndChars (front ++ back)
      = if trimEndChars back = [] then trimEndChars front else front ++ trimEndChars back := by
  simp only [trimEndChars, List.reverse_append, List.dropWhile_append, List.isEmpty_iff,
    List.reverse_eq_nil_iff]
  split <;> simp

theorem trimEndChars_cons_congr {cs other : List Char}
    (same : trimEndChars cs = trimEndChars other) (c : Char)
    : trimEndChars (c :: cs) = trimEndChars (c :: other) := by
  have whole := trimEndChars_append [c] cs
  have otherWhole := trimEndChars_append [c] other
  rw [same] at whole
  exact whole.trans otherWhole.symm

theorem head?_trimEndChars {cs : List Char} (some : trimEndChars cs ≠ [])
    : (trimEndChars cs).head? = cs.head? := by
  obtain ⟨blank, whole⟩ := trimEndChars_front cs
  rw [← List.head?_append_of_ne_nil (trimEndChars cs) some, whole]

/-- Trimming keeps a carriage return exactly when more than white space follows the first one. -/
theorem return_mem_trimEndChars_iff {cs : List Char}
    : '\r' ∈ trimEndChars cs ↔ ¬(cs.dropWhile (· ≠ '\r')).all isBlank := by
  have parts := List.takeWhile_append_dropWhile (p := (· ≠ '\r')) (l := cs)
  have before : '\r' ∉ cs.takeWhile (· ≠ '\r') := by
    intro member
    simpa using List.mem_takeWhile_imp member
  have starts := List.head?_dropWhile_not (· ≠ '\r') cs
  revert parts before starts
  generalize cs.takeWhile (· ≠ '\r') = front
  generalize cs.dropWhile (· ≠ '\r') = back
  rintro rfl before starts
  rw [trimEndChars_append, ← trimEndChars_eq_nil_iff]
  split
  · next blank =>
      simp only [blank, not_true_eq_false, iff_false]
      exact fun member => before ((trimEndChars_front front).mem member)
  · next kept =>
      simp only [kept, not_false_eq_true, iff_true]
      obtain ⟨first, more, chars⟩ := List.exists_cons_of_ne_nil kept
      have same := head?_trimEndChars kept
      rw [← same, chars] at starts
      have isReturn : first = '\r' := by simpa using starts
      rw [chars, isReturn]
      exact List.mem_append_right _ (.head _)

end Text

-----------------------------------------------------------------------------------------
-- Comment lines of a description
-----------------------------------------------------------------------------------------

theorem dropEmptyEnd_append {front back : List String} (empty : ∀ text ∈ back, text = "")
    : dropEmptyEnd (front ++ back) = dropEmptyEnd front := by
  have dropped : back.reverse.dropWhile String.isEmpty = [] := by
    rw [List.dropWhile_eq_nil_iff]
    intro text member
    rw [empty text (List.mem_reverse.mp member)]
    rfl
  rw [dropEmptyEnd, dropEmptyEnd, List.reverse_append, List.dropWhile_append, dropped]
  rfl

theorem mem_dropEmptyEnd_iff {texts : List String} {text : String} (filled : text ≠ "")
    : text ∈ dropEmptyEnd texts ↔ text ∈ texts := by
  constructor
  · intro member
    rw [dropEmptyEnd, List.mem_reverse] at member
    exact List.mem_reverse.mp ((List.dropWhile_sublist _).mem member)
  · intro member
    have whole := List.mem_reverse.mpr member
    rw [← List.takeWhile_append_dropWhile (p := String.isEmpty) (l := texts.reverse),
      List.mem_append] at whole
    rcases whole with dropped | kept
    · exact absurd (String.isEmpty_iff.mp (List.mem_takeWhile_imp dropped)) filled
    · exact List.mem_reverse.mpr kept

namespace Text

theorem splitOn_feed_cons {c : Char} (other : c ≠ '\n') (cs : List Char)
    : (c :: cs).splitOn '\n' = (cs.splitOn '\n').modifyHead (c :: ·) := by
  rw [List.splitOn_cons_eq_if_modifyHead, if_neg (by simpa using other)]

theorem splitOn_feed (cs : List Char) : ('\n' :: cs).splitOn '\n' = [] :: cs.splitOn '\n' := by
  rw [List.splitOn_cons_eq_if_modifyHead, if_pos (by simp)]

/-- The lines of a text and its parts between line feeds are the same when they are trimmed, but
for an empty part at the end. A carriage return before a line feed is white space, too.
-/
theorem exists_trimmed_linesOf (cs : List Char)
    : ∃ last,
        (cs.splitOn '\n').map trimEndChars = (linesOf cs).map trimEndChars ++ last
        ∧ ∀ part ∈ last, part = [] := by
  fun_induction linesOf cs with
  | case1 => exact ⟨[[]], rfl, by simp⟩
  | case2 rest ih =>
      obtain ⟨last, same, empty⟩ := ih
      refine ⟨last, ?_, empty⟩
      rw [splitOn_feed_cons (by decide), splitOn_feed, List.modifyHead_cons, List.map_cons, same]
      rfl
  | case3 rest ih =>
      obtain ⟨last, same, empty⟩ := ih
      refine ⟨last, ?_, empty⟩
      rw [splitOn_feed, List.map_cons, same]
      rfl
  | case4 c rest _ notFeed ih =>
      obtain ⟨last, same, empty⟩ := ih
      obtain ⟨first, more, parts⟩ := List.exists_cons_of_ne_nil (List.splitOn_ne_nil '\n' rest)
      rw [parts] at same
      rw [splitOn_feed_cons notFeed, parts, List.modifyHead_cons]
      cases held : linesOf rest with
      | nil =>
          rw [held, List.map_nil, List.nil_append, List.map_cons] at same
          subst same
          obtain ⟨firstEmpty, moreEmpty⟩ := List.forall_mem_cons.mp empty
          refine ⟨more.map trimEndChars, ?_, moreEmpty⟩
          have alone : trimEndChars (c :: first) = trimEndChars [c] :=
            trimEndChars_cons_congr firstEmpty c
          rw [List.map_cons, alone]
          rfl
      | cons line lines =>
          simp only [held, List.map_cons, List.cons_append, List.cons.injEq] at same
          refine ⟨last, ?_, empty⟩
          rw [consFirst, List.map_cons, List.map_cons, List.cons_append, same.2,
            trimEndChars_cons_congr same.1]

theorem exists_trimmed_lines (text : String)
    : ∃ last,
        (feedLines text).map trimEnd = (lines text).map trimEnd ++ last
        ∧ ∀ part ∈ last, part = "" := by
  obtain ⟨last, same, empty⟩ := exists_trimmed_linesOf text.toList
  refine ⟨last.map String.ofList, ?_, ?_⟩
  · have texts := congrArg (List.map String.ofList) same
    simpa [feedLines, lines, trimEnd, Function.comp_def] using texts
  · intro part member
    obtain ⟨cs, among, rfl⟩ := List.mem_map.mp member
    rw [empty cs among]

end Text

/-- The comment lines of a text are its parts between line feeds, trimmed, without the empty ones
at the end.
-/
theorem commentLines_eq (text : String)
    : commentLines text = dropEmptyEnd ((Text.feedLines text).map Text.trimEnd) := by
  obtain ⟨last, same, empty⟩ := Text.exists_trimmed_lines text
  rw [commentLines, same, dropEmptyEnd_append empty]

/-- Between its line feeds, the text has only white space behind a carriage return. -/
def Text.ReturnsAtEnds (text : String) : Prop :=
  ∀ part ∈ Text.feedLines text, (part.toList.dropWhile (· ≠ '\r')).all Text.isBlank

instance Text.decidableReturnsAtEnds (text : String) : Decidable (Text.ReturnsAtEnds text) :=
  List.decidableBAll _ _

/-- A comment line keeps a carriage return exactly when the text has one that more than white space
follows before the next line feed.
-/
theorem return_not_mem_commentLines_iff (text : String)
    : (∀ line ∈ commentLines text, '\r' ∉ line.toList) ↔ Text.ReturnsAtEnds text := by
  have kept (part : String)
      : '\r' ∉ (Text.trimEnd part).toList
        ↔ (part.toList.dropWhile (· ≠ '\r')).all Text.isBlank := by
    rw [Text.trimEnd, String.toList_ofList, Text.return_mem_trimEndChars_iff, not_not]
  rw [commentLines_eq]
  constructor
  · intro free part among
    rw [← kept]
    intro member
    have filled : Text.trimEnd part ≠ "" := by
      intro empty
      rw [empty] at member
      cases member
    exact free _ ((mem_dropEmptyEnd_iff filled).mpr (List.mem_map_of_mem among)) member
  · intro blank line member holds
    have filled : line ≠ "" := by
      rintro rfl
      cases holds
    obtain ⟨part, among, rfl⟩ := List.mem_map.mp ((mem_dropEmptyEnd_iff filled).mp member)
    exact (kept part).mpr (blank part among) holds

-----------------------------------------------------------------------------------------
-- Comments of records
-----------------------------------------------------------------------------------------

theorem Target.marked_comment (target : Target) (line : String)
    : Text.Marked (target.comment line).toList := by
  intro c first
  rw [target.head?_comment line] at first
  cases first
  rfl

theorem Target.laterMarked_comment (target : Target) (line : String)
    : Text.LaterMarked (target.comment line).toList ↔ Text.LaterMarked line.toList := by
  have sign (rest : List Char) : Text.LaterMarked ('#' :: rest) ↔ Text.LaterMarked rest :=
    Text.laterMarked_other (by decide) (by decide) rest
  unfold Target.comment
  split
  · next empty =>
      rw [String.isEmpty_iff.mp empty]
      exact sign []
  · have blank := Text.laterMarked_other (c := ' ') (by decide) (by decide) line.toList
    rw [String.toList_append]
    exact (sign _).trans blank

/-- The comment of a record stays a comment in the lines of a program exactly when in each of its
lines a number sign follows every carriage return.
-/
theorem Declaration.comment_marked_iff {record : Declaration} (target : Target)
    (trimmed : ∀ line ∈ record.comment, Text.Single line ∧ Text.Trimmed line)
    : (∀ line ∈ Text.fullLines (Text.join "\n" (record.shownComment target)),
        line.toList.head? = some '#')
      ↔ ∀ line ∈ record.comment,
          ∀ after, '\r' :: after <:+ line.toList → Text.Marked after := by
  have sound : ∀ line ∈ record.comment.map target.comment, Text.IsLine line := by
    intro line member
    obtain ⟨text, among, rfl⟩ := List.mem_map.mp member
    obtain ⟨single, ends⟩ := trimmed text among
    exact Target.isLine_comment single ends
  rw [Text.forall_fullLines_iff, Declaration.shownComment_of_trimmed trimmed,
    Text.marked_join_iff sound, List.forall_mem_map]
  refine forall₂_congr fun line among => ?_
  rw [Target.laterMarked_comment, Text.laterMarked_iff (trimmed line among).1]
  exact and_iff_right (target.marked_comment line)

/-- No comment line of a record holds a line feed, and none holds a carriage return exactly when the
description has only white space behind its own. All lines that the comment has in a Python program
begin with a number sign exactly when in each comment line every carriage return stands before one,
which is so when there is none.
-/
theorem Definition.comment_stays_iff (document : Document) (name : String)
    (definition : Definition) (record : Declaration)
    (declared : definition.declaration? document name = some record)
    : (∀ line ∈ record.comment, '\n' ∉ line.toList)
      ∧ ((∀ line ∈ record.comment, '\r' ∉ line.toList)
        ↔ ∀ text ∈ definition.caption, Text.ReturnsAtEnds text)
      ∧ ((∀ line ∈ Text.fullLines (Text.join "\n" (record.shownComment .python)),
          line.toList.head? = some '#')
        ↔ ∀ line ∈ record.comment,
            ∀ after, '\r' :: after <:+ line.toList → Text.Marked after) := by
  obtain ⟨_, _, comment, _⟩ := Definition.declaration?_eq_some_iff.mp declared
  have onLines : ∀ line ∈ record.comment, Text.Single line ∧ Text.Trimmed line := by
    rw [comment]
    exact fun line => Definition.comment_onLines
  refine ⟨fun line member => (onLines line member).1, ?_,
    Declaration.comment_marked_iff .python onLines⟩
  rw [comment, Definition.comment]
  cases definition.caption with
  | none => simp
  | some text => simpa using return_not_mem_commentLines_iff text

/-- A record without fields that has a description. -/
def remark (text : String) : Definition where
  description := some text
  properties := some []
  composition := none

/-- A document of one record, which has a description and no fields. -/
def remarks (text : String) : Document where
  definitions := [("Kind", remark text)]
  distinct := by simp [Entries.names]

theorem caption_remark (text : String) : (remark text).caption = some text := by
  simp [remark, Definition.caption]

theorem declaration?_remark (document : Document) (text : String)
    : (remark text).declaration? document "Kind" = some ⟨"Kind", commentLines text, []⟩ := by
  rw [Definition.declaration?_eq_some_iff, Definition.comment, caption_remark]
  refine ⟨rfl, rfl, rfl, ?_⟩
  simp [remark, Definition.fields, Definition.metProperties, Definition.walk, Member.walkAll,
    Definition.members, Definition.propertyNames, keepFirst]

/-- A description with carriage returns before its line feeds and at its end. -/
def endReturns : String :=
  "One.\r\n \r\r\nTwo.\r"

theorem Definition.comment_stays_iff_endReturns
    : ∃ record,
        (remark endReturns).declaration? (remarks endReturns) "Kind" = some record
        ∧ record.comment = ["One.", "", "Two."]
        ∧ (∀ line ∈ record.comment, '\r' ∉ line.toList)
        ∧ ∀ line ∈ Text.fullLines (Text.join "\n" (record.shownComment .python)),
            line.toList.head? = some '#' := by
  have declared := declaration?_remark (remarks endReturns) endReturns
  obtain ⟨_, returns, marked⟩ := Definition.comment_stays_iff _ _ _ _ declared
  have free : ∀ line ∈ commentLines endReturns, '\r' ∉ line.toList := by
    rw [returns]
    intro text given
    rw [caption_remark] at given
    cases given
    decide +kernel
  refine ⟨_, declared, by decide +kernel, free, marked.mpr ?_⟩
  intro line among after behind
  exact absurd (behind.mem (.head _)) (free line among)

/-- A carriage return inside of a line puts what follows it out of the comment. -/
theorem Document.comment_left_behind_return
    : ∃ record ∈ (remarks "a\rb").declarations,
        (∃ line ∈ record.comment, '\r' ∈ line.toList)
        ∧ "b" ∈ Text.fullLines (Text.join "\n" (record.shownComment .python)) := by
  have declared := declaration?_remark (remarks "a\rb") "a\rb"
  exact ⟨_, List.mem_filterMap.mpr ⟨_, .head _, declared⟩, by decide +kernel,
    by decide +kernel⟩

end RecordSmith
