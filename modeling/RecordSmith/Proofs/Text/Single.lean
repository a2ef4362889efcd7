import RecordSmith.Proofs.Text.Blocks
import RecordSmith.Text.Quoted
import RecordSmith.Text.SnakeCase

/-! Texts without line feeds: what is made of them has none either, and the lines of any text
are such texts.
-/

namespace RecordSmith.Text

-----------------------------------------------------------------------------------------
-- Parts and literals
-----------------------------------------------------------------------------------------

theorem Single.append {first second : String} (left : Single first) (right : Single second)
    : Single (first ++ second) := by
  simp only [Single, String.toList_append, List.mem_append, not_or]
  exact ⟨left, right⟩

theorem Single.join {separator : String} {parts : List String} (between : Single separator)
    (single : ∀ part ∈ parts, Single part)
    : Single (join separator parts) := by
  intro member
  rcases mem_join member with inSeparator | ⟨part, among, inside⟩
  · exact between inSeparator
  · exact single part among inside

theorem mem_escapeQuotes {c : Char} {cs : List Char} (member : c ∈ escapeQuotes cs)
    : c = '\\' ∨ c ∈ cs := by
  induction cs with
  | nil => cases member
  | cons head rest ih =>
      unfold escapeQuotes at member
      split at member <;> grind

theorem Single.quoted {text : String} (single : Single text) : Single (quoted text) := by
  intro member
  simp only [Text.quoted, String.toList_ofList, List.cons_append, List.mem_cons,
    List.mem_append] at member
  rcases member with quote | inside | quote | nothing
  · cases quote
  · rcases mem_escapeQuotes inside with backslash | inText
    · cases backslash
    · exact single inText
  · cases quote
  · cases nothing

-----------------------------------------------------------------------------------------
-- Snake case
-----------------------------------------------------------------------------------------

theorem mem_splitRun {c : Char} {rest run : List Char} (member : c ∈ splitRun rest run)
    : c = '_' ∨ c ∈ run := by
  unfold splitRun at member
  grind

theorem mem_splitAcronymsFrom {c : Char} {run name : List Char}
    (member : c ∈ splitAcronymsFrom run name)
    : c = '_' ∨ c ∈ run ∨ c ∈ name := by
  induction name generalizing run with
  | nil =>
      rcases mem_splitRun member with underscore | inRun
      · exact .inl underscore
      · exact .inr (.inl inRun)
  | cons head rest ih =>
      unfold splitAcronymsFrom at member
      split at member
      · rcases ih member with underscore | inRun | later
        · exact .inl underscore
        · rcases List.mem_cons.mp inRun with rfl | before
          · exact .inr (.inr (.head _))
          · exact .inr (.inl before)
        · exact .inr (.inr (.tail _ later))
      · rcases List.mem_append.mp member with inSplit | behind
        · rcases mem_splitRun inSplit with underscore | inRun
          · exact .inl underscore
          · exact .inr (.inl inRun)
        · rcases List.mem_cons.mp behind with rfl | later
          · exact .inr (.inr (.head _))
          · rcases ih later with underscore | nothing | inRest
            · exact .inl underscore
            · cases nothing
            · exact .inr (.inr (.tail _ inRest))

theorem mem_splitWords {c : Char} {name : List Char} (member : c ∈ splitWords name)
    : c = '_' ∨ c ∈ name := by
  fun_induction splitWords name with
  | case1 first second rest _ ih => grind
  | case2 first second rest _ ih => grind
  | case3 short => exact .inr member

/-- Every small letter that has a capital of its own lies at `a` or behind it. -/
theorem lowerCode_eq_or_le (code : Nat) : lowerCode code = code ∨ 97 ≤ lowerCode code := by
  have fromTable : ∀ run ∈ capitalRuns, (97 : Int) ≤ run.first + run.offset := by
    decide +kernel
  unfold lowerCode
  split
  · next run found =>
      have low := fromTable run (List.mem_of_find?_eq_some found)
      have held := List.find?_some found
      simp only [CapitalRun.holds, Bool.and_eq_true, decide_eq_true_eq] at held
      omega
  · exact .inl rfl

theorem feed_mem_lowerChar {c : Char} (member : '\n' ∈ lowerChar c) : c = '\n' := by
  unfold lowerChar at member
  split at member
  · simp at member
  · have same : Char.ofNat (lowerCode c.toNat) = '\n' := (List.mem_singleton.mp member).symm
    rcases lowerCode_eq_or_le c.toNat with unchanged | far
    · rwa [unchanged, Char.ofNat_toNat] at same
    · have codes := congrArg Char.toNat same
      by_cases valid : (lowerCode c.toNat).isValidChar
      · rw [Char.ofNat, dif_pos valid] at codes
        have code : lowerCode c.toNat = 10 := codes
        omega
      · rw [Char.ofNat, dif_neg valid] at codes
        cases codes

theorem feed_mem_lowerAfter {before cs : List Char} (member : '\n' ∈ lowerAfter before cs)
    : '\n' ∈ cs := by
  induction cs generalizing before with
  | nil => cases member
  | cons c rest ih =>
      rcases List.mem_append.mp member with here | later
      · split at here
        · unfold lowerSigma at here
          split at here <;> simp at here
        · exact feed_mem_lowerChar here ▸ .head _
      · exact .tail _ (ih later)

theorem Single.snakeCase {name : String} (single : Single name) : Single (snakeCase name) := by
  intro member
  rw [Text.snakeCase, String.toList_ofList] at member
  rcases mem_splitWords (feed_mem_lowerAfter member) with underscore | split
  · cases underscore
  · rcases mem_splitAcronymsFrom split with underscore | nothing | inName
    · cases underscore
    · cases nothing
    · exact single inName

-----------------------------------------------------------------------------------------
-- Lines of a text
-----------------------------------------------------------------------------------------

theorem feed_not_mem_linesOf {cs line : List Char} (member : line ∈ linesOf cs)
    : '\n' ∉ line := by
  fun_induction linesOf cs generalizing line with
  | case1 => cases member
  | case2 rest ih | case3 rest ih =>
      rcases List.mem_cons.mp member with rfl | later
      · simp
      · exact ih later
  | case4 c rest _ notFeed ih =>
      cases parts : linesOf rest with
      | nil => grind [consFirst]
      | cons first more => grind [consFirst]

theorem single_of_mem_lines {text line : String} (member : line ∈ lines text) : Single line := by
  obtain ⟨cs, among, rfl⟩ := List.mem_map.mp member
  simpa [Single] using feed_not_mem_linesOf among

-----------------------------------------------------------------------------------------
-- White space at the end
-----------------------------------------------------------------------------------------

theorem trimmed_trimEnd (text : String) : Trimmed (trimEnd text) := by
  intro c last
  simp only [trimEnd, String.toList_ofList, trimEndChars, List.getLast?_reverse] at last
  have stops := List.head?_dropWhile_not isBlank text.toList.reverse
  rw [Option.mem_def.mp last] at stops
  simpa using stops

theorem trimEnd_eq {text : String} (trimmed : Trimmed text) : trimEnd text = text := by
  have kept : text.toList.reverse.dropWhile isBlank = text.toList.reverse := by
    cases reversed : text.toList.reverse with
    | nil => rfl
    | cons last before =>
        have solid : isBlank last = false := by
          apply trimmed last
          rw [← List.head?_reverse, reversed]
          rfl
        simp [solid]
  rw [trimEnd, trimEndChars, kept, List.reverse_reverse, String.ofList_toList]

theorem Single.trimEnd {text : String} (single : Single text) : Single (trimEnd text) := by
  intro member
  simp only [Text.trimEnd, String.toList_ofList, trimEndChars, List.mem_reverse] at member
  exact single (List.mem_reverse.mp ((List.dropWhile_sublist isBlank).mem member))

end RecordSmith.Text
