import Mathlib.Data.List.Basic
import RecordSmith.Declaration
import RecordSmith.Proofs.Text.Boundaries

/-! Field names of named tuples. Every name is mapped to one that a named tuple accepts, and the
names that the mapping leaves as they are, are exactly the accepted ones. Underscores are dropped
before a letter is put in front, and keywords are set apart at the very end, so that no step undoes
what another one has done.
-/

namespace RecordSmith.Python

/-- A named tuple accepts the name for a field. -/
structure IsFieldName (name : String) : Prop where
  nonempty : name ≠ ""
  starts : ∀ c ∈ name.toList.head?, c.isAlpha
  chars : ∀ c ∈ name.toList, c.isAlphanum ∨ c = '_'
  allowed : name ∉ keywords

-----------------------------------------------------------------------------------------
-- Characters of an identifier
-----------------------------------------------------------------------------------------

theorem not_isDigit_of_isAlpha {c : Char} (letter : c.isAlpha) : c.isDigit = false := by
  rw [Bool.eq_false_iff]
  intro digit
  have code : 48 ≤ c.toNat ∧ c.toNat ≤ 57 := Char.isDigit_iff_toNat.mp digit
  rcases Bool.or_eq_true_iff.mp letter with capital | small
  · have := Text.isUpper_iff.mp capital
    omega
  · have := Text.isLower_iff.mp small
    omega

theorem identifierChar_of_accepted {c : Char} (accepted : c.isAlphanum ∨ c = '_')
    : identifierChar c = c := by
  rcases accepted with plain | rfl
  · rw [identifierChar, if_pos plain]
  · rfl

theorem mem_identifierChars {c : Char} {name : String} (member : c ∈ identifierChars name)
    : c.isAlphanum ∨ c = '_' := by
  obtain ⟨raw, _, rfl⟩ := List.mem_map.mp ((List.dropWhile_sublist _).mem member)
  rw [identifierChar]
  split
  · next plain => exact .inl plain
  · exact .inr rfl

/-- What is left when underscores are dropped in front begins with a letter or a digit. -/
theorem isAlphanum_of_head? {c : Char} {name : String}
    (first : c ∈ (identifierChars name).head?)
    : c.isAlphanum := by
  have notUnderscore : c ≠ '_' := by
    have stops := List.head?_dropWhile_not (· = '_') (name.toList.map identifierChar)
    rw [← identifierChars, Option.mem_def.mp first] at stops
    simpa using stops
  rcases mem_identifierChars (List.mem_of_head? first) with plain | underscore
  · exact plain
  · exact absurd underscore notUnderscore

theorem withLetter_cons (first : Char) (rest : List Char)
    : withLetter (first :: rest)
      = if first.isDigit then "field_".toList ++ first :: rest else first :: rest :=
  rfl

theorem mem_withLetter {c : Char} {cs : List Char} (member : c ∈ withLetter cs)
    : c.isAlphanum ∨ c = '_' ∨ c ∈ cs := by
  have letters : ∀ d ∈ "field".toList, d.isAlphanum := by simp
  have plain : ∀ d ∈ "field_".toList, d.isAlphanum ∨ d = '_' := by simp
  cases cs with
  | nil => exact .inl (letters c member)
  | cons first rest =>
      rw [withLetter_cons] at member
      split at member
      · rcases List.mem_append.mp member with inFront | given
        · rcases plain c inFront with letter | underscore
          · exact .inl letter
          · exact .inr (.inl underscore)
        · exact .inr (.inr given)
      · exact .inr (.inr member)

theorem exists_letter_of_withLetter {cs : List Char}
    (front : ∀ c ∈ cs.head?, c.isAlphanum)
    : ∃ c ∈ (withLetter cs).head?, c.isAlpha := by
  cases cs with
  | nil => exact ⟨'f', rfl, rfl⟩
  | cons first rest =>
      rw [withLetter_cons]
      split
      · exact ⟨'f', rfl, rfl⟩
      · next noDigit =>
          rcases Bool.or_eq_true_iff.mp (front first rfl) with letter | digit
          · exact ⟨first, rfl, letter⟩
          · exact absurd digit noDigit

-----------------------------------------------------------------------------------------
-- Keywords
-----------------------------------------------------------------------------------------

theorem toList_avoidKeyword (name : String)
    : (avoidKeyword name).toList = name.toList
      ∨ (avoidKeyword name).toList = name.toList ++ ['_'] := by
  rw [avoidKeyword]
  split
  · exact .inr String.toList_append
  · exact .inl rfl

/-- No keyword ends in an underscore, so that a keyword is set apart by one. -/
theorem avoidKeyword_not_mem_keywords (name : String) : avoidKeyword name ∉ keywords := by
  have ends : ∀ word ∈ keywords, word.toList.getLast? ≠ some '_' := by decide
  rw [avoidKeyword]
  split
  · intro member
    apply ends _ member
    simp
  · next other => simpa using other

-----------------------------------------------------------------------------------------
-- Accepted names
-----------------------------------------------------------------------------------------

theorem mem_identifier {c : Char} {name : String} (member : c ∈ (identifier name).toList)
    : c.isAlphanum ∨ c = '_' := by
  have ofLetters : c ∈ withLetter (identifierChars name) → c.isAlphanum ∨ c = '_' := by
    intro among
    rcases mem_withLetter among with letter | underscore | given
    · exact .inl letter
    · exact .inr underscore
    · exact mem_identifierChars given
  rw [identifier] at member
  rcases toList_avoidKeyword (String.ofList (withLetter (identifierChars name))) with
    same | longer
  · rw [same, String.toList_ofList] at member
    exact ofLetters member
  · rw [longer, String.toList_ofList] at member
    rcases List.mem_append.mp member with inside | last
    · exact ofLetters inside
    · exact .inr (List.mem_singleton.mp last)

theorem exists_letter_of_identifier (name : String)
    : ∃ c ∈ (identifier name).toList.head?, c.isAlpha := by
  obtain ⟨c, first, letter⟩ :=
    exists_letter_of_withLetter fun _ first => isAlphanum_of_head? first
  refine ⟨c, ?_, letter⟩
  rw [identifier]
  rcases toList_avoidKeyword (String.ofList (withLetter (identifierChars name))) with
    same | longer
  · rw [same, String.toList_ofList]
    exact first
  · rw [longer, String.toList_ofList]
    exact List.mem_head?_append_of_mem_head? first

theorem isFieldName_identifier (name : String) : IsFieldName (identifier name) := by
  obtain ⟨letter, first, isLetter⟩ := exists_letter_of_identifier name
  refine ⟨?_, ?_, fun c member => mem_identifier member, avoidKeyword_not_mem_keywords _⟩
  · intro empty
    rw [empty] at first
    cases first
  · intro c head
    cases (Option.mem_def.mp first).symm.trans head
    exact isLetter

/-- An accepted name passes every step as it is. -/
theorem IsFieldName.identifier_eq {name : String} (accepted : IsFieldName name)
    : identifier name = name := by
  obtain ⟨first, rest, chars⟩ : ∃ first rest, name.toList = first :: rest :=
    List.exists_cons_of_ne_nil (by simpa using accepted.nonempty)
  have letter : first.isAlpha := accepted.starts first (by rw [chars]; rfl)
  have notUnderscore : first ≠ '_' := by
    intro same
    subst same
    cases letter
  have mapped : name.toList.map identifierChar = name.toList :=
    (List.map_congr_left fun c member =>
      identifierChar_of_accepted (accepted.chars c member)).trans (List.map_id _)
  have kept : identifierChars name = name.toList := by
    rw [identifierChars, mapped, chars]
    simp [notUnderscore]
  have lettered : withLetter name.toList = name.toList := by
    rw [chars, withLetter_cons, not_isDigit_of_isAlpha letter]
    rfl
  have allowed : keywords.contains name = false := by simpa using accepted.allowed
  rw [identifier, kept, lettered, String.ofList_toList, avoidKeyword, allowed]
  rfl

theorem identifier_eq_self_iff {name : String}
    : identifier name = name ↔ IsFieldName name := by
  constructor
  · intro same
    rw [← same]
    exact isFieldName_identifier name
  · exact IsFieldName.identifier_eq

/-- Every record is declared with distinct fields that a named tuple accepts, whatever its own
fields are. Mapping a name leaves it as it is if and only if it is accepted, so that mapping twice
is mapping once, and the accepted names are all that come out.
-/
theorem identifier_exactly_fieldNames
    : (∀ record : Declaration,
        record.text .python
          = Text.join "\n"
              (record.shownComment .python
                ++ [declaration record.name (record.shownFields .python)])
        ∧ (∀ field ∈ record.shownFields .python, IsFieldName field)
        ∧ (record.shownFields .python).Nodup)
      ∧ (∀ name, identifier name = name ↔ IsFieldName name)
      ∧ (∀ name, identifier (identifier name) = identifier name)
      ∧ ∀ name, (∃ raw, identifier raw = name) ↔ IsFieldName name := by
  refine ⟨?_, fun name => identifier_eq_self_iff, ?_, ?_⟩
  · intro record
    refine ⟨rfl, ?_, nodup_keepFirst _⟩
    intro field member
    obtain ⟨raw, _, rfl⟩ := List.mem_map.mp (mem_keepFirst.mp member)
    exact isFieldName_identifier raw
  · intro name
    exact (isFieldName_identifier name).identifier_eq
  · intro name
    constructor
    · intro mapped
      obtain ⟨raw, rfl⟩ := mapped
      exact isFieldName_identifier raw
    · intro accepted
      exact ⟨name, accepted.identifier_eq⟩

/-- A record whose fields are no names at all, or keywords, or become one name. -/
def oddRecord : Declaration where
  name := "Odd"
  comment := []
  fields := ["", "__", "2d", "__class", "from", "from_", "é-1"]

theorem identifier_exactly_fieldNames_oddRecord
    : "class_" ∈ oddRecord.shownFields .python
      ∧ IsFieldName "class_"
      ∧ identifier "class_" = "class_"
      ∧ (oddRecord.shownFields .python).Nodup := by
  have member : "class_" ∈ oddRecord.shownFields .python := by decide +kernel
  obtain ⟨ofRecords, unchanged, _, _⟩ := identifier_exactly_fieldNames
  obtain ⟨_, accepted, distinct⟩ := ofRecords oddRecord
  have isAccepted := accepted "class_" member
  exact ⟨member, isAccepted, (unchanged "class_").mpr isAccepted, distinct⟩

end RecordSmith.Python
