import Mathlib.Data.List.Chain
import RecordSmith.Text.Blank
import RecordSmith.Text.Lines

/-! Lines and blocks of a text. Cutting at line feeds, and at double line feeds, takes apart
what joining lines to blocks and blocks to a text has put together.
-/

namespace RecordSmith.Text

-----------------------------------------------------------------------------------------
-- Joining
-----------------------------------------------------------------------------------------

theorem toList_join (separator : String) (parts : List String)
    : (join separator parts).toList
      = separator.toList.intercalate (parts.map String.toList) := by
  induction parts with
  | nil => rfl
  | cons part rest ih =>
      cases rest with
      | nil => simp [join]
      | cons next rest => simp [join, ih]

theorem join_cons {separator part : String} {rest : List String} (more : rest ≠ [])
    : join separator (part :: rest) = part ++ separator ++ join separator rest := by
  cases rest with
  | nil => exact absurd rfl more
  | cons next rest => rfl

theorem exists_join_cons (separator part : String) (rest : List String)
    : ∃ behind, join separator (part :: rest) = part ++ behind := by
  cases rest with
  | nil => exact ⟨"", by simp [join]⟩
  | cons next rest => exact ⟨_, String.append_assoc⟩

theorem join_append {separator : String} {front back : List String}
    (first : front ≠ []) (second : back ≠ [])
    : join separator (front ++ back)
      = join separator front ++ separator ++ join separator back := by
  induction front with
  | nil => exact absurd rfl first
  | cons part rest ih =>
      cases rest with
      | nil => simp [join_cons second, join]
      | cons next rest =>
          rw [List.cons_append, join_cons (by simp), ih (by simp)]
          simp only [join, String.append_assoc]

theorem mem_join {separator : String} {parts : List String} {c : Char}
    (member : c ∈ (join separator parts).toList)
    : c ∈ separator.toList ∨ ∃ part ∈ parts, c ∈ part.toList := by
  induction parts with
  | nil => simp [join] at member
  | cons part rest ih =>
      cases rest with
      | nil => exact .inr ⟨part, .head _, member⟩
      | cons next rest =>
          rw [join_cons (by simp), String.toList_append, String.toList_append,
            List.mem_append, List.mem_append] at member
          rcases member with (inPart | between) | later
          · exact .inr ⟨part, .head _, inPart⟩
          · exact .inl between
          · rcases ih later with between | ⟨other, among, inside⟩
            · exact .inl between
            · exact .inr ⟨other, .tail _ among, inside⟩

/-- Cutting at a separator of one character gives back the parts, when none of them holds it. -/
theorem map_splitOn_join {separator : String} {c : Char} {parts : List String}
    (only : separator.toList = [c]) (some : parts ≠ []) (apart : ∀ part ∈ parts, c ∉ part.toList)
    : ((join separator parts).toList.splitOn c).map String.ofList = parts := by
  have charsApart : ∀ chars ∈ parts.map String.toList, c ∉ chars := by
    intro chars member
    obtain ⟨part, among, rfl⟩ := List.mem_map.mp member
    exact apart part among
  have cut := List.splitOn_intercalate c charsApart (by simpa using some)
  rw [toList_join, only]
  simpa [Function.comp_def] using congrArg (List.map String.ofList) cut

-----------------------------------------------------------------------------------------
-- Line feeds
-----------------------------------------------------------------------------------------

/-- The text holds no line feed. -/
def Single (text : String) : Prop :=
  '\n' ∉ text.toList

instance (text : String) : Decidable (Single text) :=
  inferInstanceAs (Decidable ('\n' ∉ text.toList))

/-- The parts of a text between its line feeds, with nothing else cut off. -/
def feedLines (text : String) : List String :=
  (text.toList.splitOn '\n').map String.ofList

theorem feedLines_join {lines : List String} (some : lines ≠ [])
    (single : ∀ line ∈ lines, Single line)
    : feedLines (join "\n" lines) = lines :=
  map_splitOn_join rfl some single

theorem feedLines_append_feed (before after : String)
    : feedLines (before ++ "\n" ++ after) = feedLines before ++ feedLines after := by
  have cut := List.splitOn_append_cons_self (a := '\n') before.toList after.toList
  simpa [feedLines] using congrArg (List.map String.ofList) cut

theorem feedLines_empty : feedLines "" = [""] := rfl

-----------------------------------------------------------------------------------------
-- Blocks
-----------------------------------------------------------------------------------------

/-- The text does not end in white space. -/
def Trimmed (text : String) : Prop :=
  ∀ c ∈ text.toList.getLast?, isBlank c = false

instance (text : String) : Decidable (Trimmed text) :=
  decidable_of_iff (text.toList.getLast?.all (!isBlank ·) = true) (by
    unfold Trimmed
    cases text.toList.getLast? <;> simp)

theorem Trimmed.behind {front back : String} (some : back ≠ "") (trimmed : Trimmed back)
    : Trimmed (front ++ back) := by
  intro c last
  rw [String.toList_append, List.getLast?_append_of_ne_nil _ (by simpa using some)] at last
  exact trimmed c last

/-- A line as it may stand in a block: not empty, without line feed, and trimmed. -/
structure IsLine (line : String) : Prop where
  nonempty : line ≠ ""
  single : Single line
  trimmed : Trimmed line

/-- One or more lines. -/
structure IsBlock (lines : List String) : Prop where
  nonempty : lines ≠ []
  isLine : ∀ line ∈ lines, IsLine line

/-- The lines of blocks, with an empty line between neighbours. -/
def spaced : List (List String) → List String
  | [] => []
  | [block] => block
  | block :: next :: rest => block ++ "" :: spaced (next :: rest)

section

variable {blocks : List (List String)}

theorem spaced_ne_nil (some : blocks ≠ []) (sound : ∀ block ∈ blocks, IsBlock block)
    : spaced blocks ≠ [] := by
  cases blocks with
  | nil => exact absurd rfl some
  | cons block rest =>
      have held := (sound block (.head _)).nonempty
      cases rest with
      | nil => exact held
      | cons next rest => simp [spaced]

theorem mem_spaced {line : String} (member : line ∈ spaced blocks)
    : line = "" ∨ ∃ block ∈ blocks, line ∈ block := by
  induction blocks with
  | nil => cases member
  | cons block rest ih =>
      cases rest with
      | nil => exact .inr ⟨block, .head _, member⟩
      | cons next rest =>
          rcases List.mem_append.mp member with inBlock | behind
          · exact .inr ⟨block, .head _, inBlock⟩
          · rcases List.mem_cons.mp behind with rfl | later
            · exact .inl rfl
            · rcases ih later with rfl | ⟨other, among, inside⟩
              · exact .inl rfl
              · exact .inr ⟨other, .tail _ among, inside⟩

/-- Joining blocks by double line feeds is joining their spaced lines by single ones. -/
theorem join_spaced (sound : ∀ block ∈ blocks, IsBlock block)
    : join "\n\n" (blocks.map (join "\n")) = join "\n" (spaced blocks) := by
  induction blocks with
  | nil => rfl
  | cons block rest ih =>
      cases rest with
      | nil => rfl
      | cons next rest =>
          have held := (sound block (.head _)).nonempty
          have later : ∀ other ∈ next :: rest, IsBlock other :=
            fun other among => sound other (.tail _ among)
          have more : spaced (next :: rest) ≠ [] := spaced_ne_nil (by simp) later
          rw [List.map_cons, join_cons (by simp), ih later, spaced, join_append held (by simp),
            join_cons more]
          simp only [String.append_assoc, String.empty_append]
          rfl

theorem single_of_mem_spaced (sound : ∀ block ∈ blocks, IsBlock block) {line : String}
    (member : line ∈ spaced blocks)
    : Single line := by
  rcases mem_spaced member with rfl | ⟨block, among, inside⟩
  · simp [Single]
  · exact ((sound block among).isLine line inside).single

theorem feedLines_body (some : blocks ≠ []) (sound : ∀ block ∈ blocks, IsBlock block)
    : feedLines (join "\n\n" (blocks.map (join "\n"))) = spaced blocks := by
  rw [join_spaced sound]
  exact feedLines_join (spaced_ne_nil some sound) fun _ => single_of_mem_spaced sound

/-- The text starts and ends with a line of a block. -/
theorem ends_of_spaced (some : blocks ≠ []) (sound : ∀ block ∈ blocks, IsBlock block)
    : (∀ line ∈ (spaced blocks).head?, line ≠ "")
      ∧ ∀ line ∈ (spaced blocks).getLast?, line ≠ "" := by
  induction blocks with
  | nil => exact absurd rfl some
  | cons block rest ih =>
      have held := sound block (.head _)
      cases rest with
      | nil =>
          exact ⟨fun line first => (held.isLine line (List.mem_of_mem_head? first)).nonempty,
            fun line last => (held.isLine line (List.mem_of_mem_getLast? last)).nonempty⟩
      | cons next rest =>
          have later : ∀ other ∈ next :: rest, IsBlock other :=
            fun other among => sound other (.tail _ among)
          have more : spaced (next :: rest) ≠ [] := spaced_ne_nil (by simp) later
          obtain ⟨_, last⟩ := ih (by simp) later
          constructor
          · intro line first
            rw [spaced, List.head?_append_of_ne_nil _ held.nonempty] at first
            exact (held.isLine line (List.mem_of_mem_head? first)).nonempty
          · intro line final
            rw [spaced, List.getLast?_append_of_ne_nil _ (by simp),
              List.getLast?_cons_of_ne_nil more] at final
            exact last line final

/-- Of two neighbouring lines at least one is not empty, also with an empty line at the end. -/
theorem isChain_spaced (some : blocks ≠ []) (sound : ∀ block ∈ blocks, IsBlock block)
    : List.IsChain (fun line next => line ≠ "" ∨ next ≠ "") (spaced blocks ++ [""]) := by
  have ofBlock : ∀ block, IsBlock block
      → List.IsChain (fun line next : String => line ≠ "" ∨ next ≠ "") block := by
    intro block held
    apply List.Pairwise.isChain
    exact List.pairwise_of_forall_mem_list fun line among _ _ =>
      .inl (held.isLine line among).nonempty
  induction blocks with
  | nil => exact absurd rfl some
  | cons block rest ih =>
      have held := sound block (.head _)
      cases rest with
      | nil =>
          rw [spaced, List.isChain_append]
          refine ⟨ofBlock block held, by simp, ?_⟩
          intro line last _ _
          exact .inl (held.isLine line (List.mem_of_mem_getLast? last)).nonempty
      | cons next rest =>
          have later : ∀ other ∈ next :: rest, IsBlock other :=
            fun other among => sound other (.tail _ among)
          have more : spaced (next :: rest) ≠ [] := spaced_ne_nil (by simp) later
          rw [spaced, List.append_assoc, List.isChain_append]
          refine ⟨ofBlock block held, ?_, ?_⟩
          · rw [List.cons_append, List.isChain_cons]
            refine ⟨?_, ih (by simp) later⟩
            intro line first
            rw [List.head?_append_of_ne_nil _ more] at first
            exact .inr ((ends_of_spaced (by simp) later).1 line first)
          · intro line last _ _
            exact .inl (held.isLine line (List.mem_of_mem_getLast? last)).nonempty

/-- The text of blocks, in which a line feed ends the last line. -/
def blockText (blocks : List (List String)) : String :=
  join "\n\n" (blocks.map (join "\n")) ++ "\n"

theorem feedLines_blockText (some : blocks ≠ []) (sound : ∀ block ∈ blocks, IsBlock block)
    : feedLines (blockText blocks) = spaced blocks ++ [""] := by
  have cut := feedLines_append_feed (join "\n\n" (blocks.map (join "\n"))) ""
  rwa [String.append_empty, feedLines_body some sound, feedLines_empty] at cut

theorem blockText_not_starts (some : blocks ≠ []) (sound : ∀ block ∈ blocks, IsBlock block)
    (rest : String)
    : blockText blocks ≠ "\n" ++ rest := by
  intro starts
  have cut := feedLines_append_feed "" rest
  rw [String.empty_append, ← starts, feedLines_blockText some sound, feedLines_empty] at cut
  have first : "" ∈ (spaced blocks).head? := by
    rw [← List.head?_append_of_ne_nil (spaced blocks) (spaced_ne_nil some sound), cut]
    rfl
  exact (ends_of_spaced some sound).1 "" first rfl

theorem body_not_ends (some : blocks ≠ []) (sound : ∀ block ∈ blocks, IsBlock block)
    (front : String)
    : join "\n\n" (blocks.map (join "\n")) ≠ front ++ "\n" := by
  intro ends
  have cut := feedLines_append_feed front ""
  rw [String.append_empty, ← ends, feedLines_body some sound, feedLines_empty] at cut
  have last : "" ∈ (spaced blocks).getLast? := by simp [cut]
  exact (ends_of_spaced some sound).2 "" last rfl

/-- Three line feeds in a row would be two neighbouring empty lines. -/
theorem blockText_no_gap (some : blocks ≠ []) (sound : ∀ block ∈ blocks, IsBlock block)
    (before after : String)
    : blockText blocks ≠ before ++ "\n\n\n" ++ after := by
  intro gap
  have regrouped : before ++ "\n\n\n" ++ after
      = before ++ "\n" ++ ("" ++ "\n" ++ ("" ++ "\n" ++ after)) := by
    have feeds : "\n\n\n" = "\n" ++ ("\n" ++ "\n") := rfl
    simp only [feeds, String.empty_append, String.append_assoc]
  have chain := isChain_spaced some sound
  rw [← feedLines_blockText some sound, gap, regrouped, feedLines_append_feed,
    feedLines_append_feed, feedLines_append_feed, feedLines_empty] at chain
  have neighbours := (List.isChain_append.mp chain).2.1
  simp at neighbours

theorem trimmed_of_mem_blockText (some : blocks ≠ [])
    (sound : ∀ block ∈ blocks, IsBlock block)
    : ∀ line ∈ feedLines (blockText blocks), Trimmed line := by
  intro line member
  rw [feedLines_blockText some sound] at member
  have ofEmpty : Trimmed "" := by decide
  rcases List.mem_append.mp member with inBody | last
  · rcases mem_spaced inBody with rfl | ⟨block, among, inside⟩
    · exact ofEmpty
    · exact ((sound block among).isLine line inside).trimmed
  · cases List.mem_singleton.mp last
    exact ofEmpty

end

-----------------------------------------------------------------------------------------
-- Paragraphs
-----------------------------------------------------------------------------------------

/-- The parts between double line feeds, cut from left to right. -/
def paragraphsOf : List Char → List (List Char)
  | [] => [[]]
  | '\n' :: '\n' :: rest => [] :: paragraphsOf rest
  | c :: rest => consFirst c (paragraphsOf rest)

/-- The parts of a text between double line feeds. -/
def paragraphs (text : String) : List String :=
  (paragraphsOf text.toList).map String.ofList

theorem paragraphsOf_ne_nil (cs : List Char) : paragraphsOf cs ≠ [] := by
  fun_cases paragraphsOf cs with
  | case1 => simp
  | case2 => simp
  | case3 c rest =>
      cases paragraphsOf rest <;> simp [consFirst]

/-- A character that does not begin a double line feed belongs to what follows it. -/
theorem paragraphsOf_cons {c : Char} {rest : List Char}
    (uncut : c = '\n' → rest.head? ≠ some '\n')
    : paragraphsOf (c :: rest) = (paragraphsOf rest).modifyHead (c :: ·) := by
  rw [paragraphsOf]
  · cases parts : paragraphsOf rest with
    | nil => exact absurd parts (paragraphsOf_ne_nil rest)
    | cons => rfl
  · rintro more rfl rfl
    exact uncut rfl rfl

theorem paragraphsOf_append {line : List Char} (single : '\n' ∉ line) (rest : List Char)
    : paragraphsOf (line ++ rest) = (paragraphsOf rest).modifyHead (line ++ ·) := by
  induction line with
  | nil => exact (congrFun List.modifyHead_id _).symm
  | cons c line ih =>
      have other : c ≠ '\n' := fun same => single (same ▸ .head _)
      have later : '\n' ∉ line := fun member => single (.tail _ member)
      rw [List.cons_append, paragraphsOf_cons fun same => absurd same other, ih later,
        List.modifyHead_modifyHead]
      rfl

theorem IsLine.head?_ne_feed {line : String} (isLine : IsLine line) (behind : List Char)
    : (line.toList ++ behind).head? ≠ some '\n' := by
  intro starts
  rw [List.head?_append_of_ne_nil _ (by simpa using isLine.nonempty)] at starts
  exact isLine.single (List.mem_of_mem_head? starts)

/-- A block stays in one piece, by induction over its lines. Each line feed in it stands before
a line that is not empty.
-/
theorem IsBlock.paragraphsOf_append {lines : List String} (block : IsBlock lines)
    (rest : List Char)
    : paragraphsOf ((join "\n" lines).toList ++ rest)
      = (paragraphsOf rest).modifyHead ((join "\n" lines).toList ++ ·) := by
  obtain ⟨held, isLine⟩ := block
  induction lines with
  | nil => exact absurd rfl held
  | cons line more ih =>
      have single := (isLine line (.head _)).single
      cases more with
      | nil => exact Text.paragraphsOf_append single rest
      | cons next more =>
          have later := ih (by simp) fun other among => isLine other (.tail _ among)
          have starts : ((join "\n" (next :: more)).toList ++ rest).head? ≠ some '\n' := by
            obtain ⟨behind, same⟩ := exists_join_cons "\n" next more
            rw [same, String.toList_append, List.append_assoc]
            exact (isLine next (.tail _ (.head _))).head?_ne_feed _
          have feed : "\n".toList = ['\n'] := rfl
          simp only [join_cons (List.cons_ne_nil next more), String.toList_append, feed,
            List.append_assoc, List.cons_append, List.nil_append]
          rw [Text.paragraphsOf_append single, paragraphsOf_cons fun _ => starts, later,
            List.modifyHead_modifyHead, List.modifyHead_modifyHead]
          rfl

theorem paragraphs_body {blocks : List (List String)} (some : blocks ≠ [])
    (sound : ∀ block ∈ blocks, IsBlock block)
    : paragraphs (join "\n\n" (blocks.map (join "\n"))) = blocks.map (join "\n") := by
  induction blocks with
  | nil => exact absurd rfl some
  | cons block rest ih =>
      have uncut := (sound block (.head _)).paragraphsOf_append
      cases rest with
      | nil =>
          have whole := uncut []
          rw [List.append_nil] at whole
          simp [paragraphs, join, whole, paragraphsOf]
      | cons next rest =>
          have later := ih (by simp) fun other among => sound other (.tail _ among)
          have feeds : "\n\n".toList = ['\n', '\n'] := rfl
          rw [List.map_cons, join_cons (by simp), paragraphs, String.toList_append,
            String.toList_append, List.append_assoc, uncut, feeds]
          simpa [paragraphs, paragraphsOf] using later

end RecordSmith.Text
