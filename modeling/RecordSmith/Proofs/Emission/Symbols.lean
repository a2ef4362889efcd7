import Mathlib.Data.List.Infix
import RecordSmith.Proofs.Emission.Injectivity

/-! Symbols as Ruby reads them. A symbol is read back as the field that it was written for, unless
the field holds a mark by which code begins inside of quotes. Quotes and backslashes of a field are
escaped and number signs are not, so that such a mark is read as code.
-/

namespace RecordSmith.Ruby

-----------------------------------------------------------------------------------------
-- Reading symbols
-----------------------------------------------------------------------------------------

/-- What a reader makes of the front of a text: a literal with its value and the rest of the text,
a literal with code inside, or no literal at all.
-/
inductive Reading where
  | value (chars rest : List Char)
  | code
  | nothing
deriving Repr, DecidableEq

/-- Puts a character in front of the value. -/
def Reading.push (c : Char) : Reading → Reading
  | .value chars rest => .value (c :: chars) rest
  | .code => .code
  | .nothing => .nothing

/-- The text begins with a mark of code: a number sign with a brace, dollar or at sign behind. -/
def beginsCode : List Char → Bool
  | '#' :: next :: _ => next = '\x7b' || next = '$' || next = '@'
  | _ => false

/-- Reads a literal from behind its opening quote. A backslash escapes the next character. The first
quote that is not escaped ends the literal, and a mark that is not escaped begins code in it.
-/
def readQuoted : List Char → Reading
  | [] => .nothing
  | '"' :: rest => .value [] rest
  | '\\' :: c :: rest => (readQuoted rest).push c
  | c :: rest => if beginsCode (c :: rest) then .code else (readQuoted rest).push c

/-- A character of a symbol without quotes, behind its first one. -/
def isBare (c : Char) : Bool :=
  c.isAlphanum || c = '_'

/-- Reads a symbol. Without quotes it is a small letter or an underscore, and all the letters,
digits and underscores behind it.
-/
def readSymbol : List Char → Reading
  | ':' :: '"' :: rest => readQuoted rest
  | ':' :: first :: rest =>
      if first.isLower || first = '_' then
        .value (first :: rest.takeWhile isBare) (rest.dropWhile isBare)
      else .nothing
  | _ => .nothing

/-- Code begins somewhere in the text. -/
def HoldsCode (cs : List Char) : Prop :=
  ∃ behind, behind <:+ cs ∧ beginsCode behind

theorem not_holdsCode_nil : ¬HoldsCode [] := by
  rintro ⟨behind, isEnd, begins⟩
  cases List.suffix_nil.mp isEnd
  cases begins

theorem holdsCode_cons_iff {c : Char} {cs : List Char}
    : HoldsCode (c :: cs) ↔ beginsCode (c :: cs) ∨ HoldsCode cs := by
  simp only [HoldsCode, List.suffix_cons_iff, or_and_right, exists_or, exists_eq_left]

instance decidableHoldsCode (cs : List Char) : Decidable (HoldsCode cs) :=
  match cs with
  | [] => isFalse not_holdsCode_nil
  | _ :: rest =>
      have := decidableHoldsCode rest
      decidable_of_iff _ holdsCode_cons_iff.symm

-----------------------------------------------------------------------------------------
-- Quoted symbols
-----------------------------------------------------------------------------------------

theorem beginsCode_cons_of_ne {c : Char} (other : c ≠ '#') (cs : List Char)
    : beginsCode (c :: cs) = false := by
  unfold beginsCode
  split
  · next same =>
      cases same
      exact absurd rfl other
  · rfl

/-- Escaping neither makes nor breaks a mark of code: a backslash or a quote behind a number sign
belongs to none.
-/
theorem beginsCode_escapeQuotes (c : Char) (cs rest : List Char)
    : beginsCode (c :: (Text.escapeQuotes cs ++ '"' :: rest)) = beginsCode (c :: cs) := by
  by_cases sign : c = '#'
  · subst sign
    cases cs with
    | nil => rfl
    | cons d cs =>
        rw [Text.escapeQuotes]
        split
        · next special =>
            simp only [Bool.or_eq_true, decide_eq_true_eq] at special
            rcases special with rfl | rfl <;> rfl
        · rfl
  · rw [beginsCode_cons_of_ne sign, beginsCode_cons_of_ne sign]

theorem readQuoted_plain {c : Char} (backslash : c ≠ '\\') (quote : c ≠ '"') (rest : List Char)
    : readQuoted (c :: rest)
      = if beginsCode (c :: rest) then .code else (readQuoted rest).push c := by
  rw [readQuoted]
  · exact quote
  · intro _ _ same
    exact absurd same backslash

theorem Reading.push_ite {condition : Prop} [Decidable condition] (c : Char)
    (chars rest : List Char)
    : (if condition then Reading.code else .value chars rest).push c
      = if condition then .code else .value (c :: chars) rest := by
  split <;> rfl

/-- A text between quotes is read back, unless it holds code, by induction over the text. -/
theorem readQuoted_escapeQuotes (cs rest : List Char)
    : readQuoted (Text.escapeQuotes cs ++ '"' :: rest)
      = if HoldsCode cs then .code else .value cs rest := by
  induction cs with
  | nil => rw [if_neg not_holdsCode_nil, Text.escapeQuotes, List.nil_append, readQuoted]
  | cons c cs ih =>
      simp only [holdsCode_cons_iff]
      rw [Text.escapeQuotes]
      split
      · next special =>
          have other : c ≠ '#' := by
            rintro rfl
            simp at special
          simp only [List.cons_append, readQuoted, ih, Reading.push_ite,
            beginsCode_cons_of_ne other, Bool.false_eq_true, false_or]
      · next plain =>
          simp only [Bool.or_eq_true, decide_eq_true_eq, not_or] at plain
          rw [List.cons_append, readQuoted_plain plain.1 plain.2, beginsCode_escapeQuotes, ih,
            Reading.push_ite]
          simp only [ite_or]

theorem HoldsCode.sign_mem {cs : List Char} (holds : HoldsCode cs) : '#' ∈ cs := by
  obtain ⟨behind, isEnd, begins⟩ := holds
  apply isEnd.mem
  unfold beginsCode at begins
  split at begins
  · exact .head _
  · cases begins

/-- A symbol without quotes ends before a character that it cannot contain. -/
theorem readSymbol_bare {first : Char} {more rest : List Char} (starts : startsSymbol first)
    (continues : ∀ c ∈ more, isBare c) (ends : rest.head?.any isBare = false)
    : readSymbol (':' :: first :: (more ++ rest)) = .value (first :: more) rest := by
  have noQuote : first ≠ '"' := by
    rintro rfl
    cases starts
  have stops : rest.takeWhile isBare = [] ∧ rest.dropWhile isBare = rest := by
    cases rest with
    | nil => exact ⟨rfl, rfl⟩
    | cons c rest =>
        have stop : isBare c = false := ends
        simp [stop]
  have small : first.isLower || first = '_' := starts
  rw [readSymbol]
  · rw [if_pos small, List.takeWhile_append_of_pos continues,
      List.dropWhile_append_of_pos continues, stops.1, stops.2, List.append_nil]
  · exact noQuote

/-- A symbol is read back as its field, unless the field holds code. -/
theorem readSymbol_symbol (field : String) (rest : List Char)
    (ends : rest.head?.any isBare = false)
    : readSymbol ((symbol field).toList ++ rest)
      = if HoldsCode field.toList then .code else .value field.toList rest := by
  unfold symbol
  split
  · next plain =>
      have continues := continuesSymbol_of_isPlain plain
      have noCode : ¬HoldsCode field.toList := by
        intro holds
        cases continues '#' holds.sign_mem
      unfold isPlain at plain
      split at plain
      · cases plain
      · next first more chars =>
          rw [if_neg noCode, chars]
          rw [chars] at continues
          have starts := (Bool.and_eq_true_iff.mp plain).1
          simpa [chars] using
            readSymbol_bare starts (fun c among => continues c (.tail _ among)) ends
  · simp only [Text.quoted, String.toList_append, String.toList_ofList, List.append_assoc,
      List.cons_append, List.nil_append]
    exact readQuoted_escapeQuotes field.toList rest

-----------------------------------------------------------------------------------------
-- Lists of symbols
-----------------------------------------------------------------------------------------

/-- The text is read as symbols of these names, with commas between them, up to a closing
parenthesis that ends it.
-/
inductive ReadsAs : List Char → List String → Prop where
  | last {cs chars : List Char} (read : readSymbol cs = .value chars [')'])
    : ReadsAs cs [String.ofList chars]
  | next {cs chars rest : List Char} {names : List String}
      (read : readSymbol cs = .value chars (',' :: ' ' :: rest)) (later : ReadsAs rest names)
    : ReadsAs cs (String.ofList chars :: names)

/-- The text behind the marker of a record is read as these names. It is empty when there are
none.
-/
inductive Defines : List Char → List String → Prop where
  | bare : Defines [] []
  | listed {cs : List Char} {names : List String} (read : ReadsAs cs names)
    : Defines ('(' :: cs) names

section

variable {field : String} {rest : List Char} {names : List String}

theorem not_readsAs_of_holdsCode (holds : HoldsCode field.toList)
    (ends : rest.head?.any isBare = false)
    : ¬ReadsAs ((symbol field).toList ++ rest) names := by
  have code := readSymbol_symbol field rest ends
  rw [if_pos holds] at code
  intro reads
  cases reads with
  | last read => cases code.symm.trans read
  | next read later => cases code.symm.trans read

theorem readsAs_last_iff (plain : ¬HoldsCode field.toList)
    : ReadsAs ((symbol field).toList ++ [')']) names ↔ names = [field] := by
  have value := readSymbol_symbol field [')'] rfl
  rw [if_neg plain] at value
  constructor
  · intro reads
    cases reads with
    | last read =>
        cases value.symm.trans read
        rw [String.ofList_toList]
    | next read later => cases value.symm.trans read
  · rintro rfl
    simpa using ReadsAs.last value

theorem readsAs_next_iff (plain : ¬HoldsCode field.toList)
    : ReadsAs ((symbol field).toList ++ ',' :: ' ' :: rest) names
      ↔ ∃ later, ReadsAs rest later ∧ names = field :: later := by
  have value := readSymbol_symbol field (',' :: ' ' :: rest) rfl
  rw [if_neg plain] at value
  constructor
  · intro reads
    cases reads with
    | last read => cases value.symm.trans read
    | @next _ _ _ others read later =>
        cases value.symm.trans read
        exact ⟨others, later, by rw [String.ofList_toList]⟩
  · rintro ⟨later, reads, rfl⟩
    simpa using ReadsAs.next value reads

end

/-- Symbols are read back as their fields exactly when no field holds code, by induction over the
fields.
-/
theorem readsAs_join_iff {fields : List String} (some : fields ≠ []) (names : List String)
    : ReadsAs ((Text.join ", " (fields.map symbol)).toList ++ [')']) names
      ↔ names = fields ∧ ∀ field ∈ fields, ¬HoldsCode field.toList := by
  induction fields generalizing names with
  | nil => exact absurd rfl some
  | cons field fields ih =>
      cases fields with
      | nil =>
          by_cases holds : HoldsCode field.toList
          · simpa [Text.join, holds] using not_readsAs_of_holdsCode holds rfl
          · simpa [Text.join, holds] using readsAs_last_iff holds
      | cons next fields =>
          have joined : (Text.join ", " ((field :: next :: fields).map symbol)).toList ++ [')']
              = (symbol field).toList ++ ',' :: ' '
                  :: ((Text.join ", " ((next :: fields).map symbol)).toList ++ [')']) := by
            simp [Text.join]
          rw [joined]
          by_cases holds : HoldsCode field.toList
          · simpa [holds] using not_readsAs_of_holdsCode holds rfl
          · rw [readsAs_next_iff holds, List.forall_mem_cons (a := field)]
            constructor
            · rintro ⟨later, reads, rfl⟩
              obtain ⟨rfl, plain⟩ := (ih (by simp) later).mp reads
              exact ⟨rfl, holds, plain⟩
            · rintro ⟨rfl, _, plain⟩
              exact ⟨_, (ih (by simp) _).mpr ⟨rfl, plain⟩, rfl⟩

end RecordSmith.Ruby

namespace RecordSmith

/-- Behind its name and the marker, the text of a record is read as its fields exactly when no
field holds code.
-/
theorem Ruby.defines_arguments_iff (name : String) (fields names : List String)
    : Ruby.Defines (Target.ruby.arguments name fields).toList names
      ↔ names = fields ∧ ∀ field ∈ fields, ¬Ruby.HoldsCode field.toList := by
  cases fields with
  | nil =>
      constructor
      · intro defines
        cases defines
        simp
      · rintro ⟨rfl, _⟩
        exact .bare
  | cons field fields =>
      have opened : (Target.ruby.arguments name (field :: fields)).toList
          = '(' :: ((Text.join ", " ((field :: fields).map Ruby.symbol)).toList ++ [')']) := by
        simp [Target.arguments]
      rw [opened, ← Ruby.readsAs_join_iff (by simp)]
      constructor
      · intro defines
        cases defines with
        | listed read => exact read
      · exact .listed

/-- The text of each record of a document ends in its name, the marker and its symbols. A symbol is
read as the field that it was written for, with no code inside, exactly when the field holds no
code; and all symbols of the record are read as its fields exactly when no field does.
-/
theorem Document.symbols_denote_fields_iff (document : Document) (record : Declaration)
    (member : record ∈ document.declarations)
    : record.text .ruby
        = Text.join "\n"
            (record.shownComment .ruby
              ++ [record.name ++ " = Data.define"
                  ++ Target.ruby.arguments record.name record.fields])
      ∧ (∀ field ∈ record.fields,
          Ruby.readSymbol (Ruby.symbol field).toList
            = if Ruby.HoldsCode field.toList then .code else .value field.toList [])
      ∧ ∀ names,
          Ruby.Defines (Target.ruby.arguments record.name record.fields).toList names
          ↔ names = record.fields
            ∧ ∀ field ∈ record.fields, ¬Ruby.HoldsCode field.toList := by
  refine ⟨?_, ?_, Ruby.defines_arguments_iff record.name record.fields⟩
  · have marker : " = Data.define" = " =" ++ " Data.define" := rfl
    rw [Declaration.text, Document.shownFields_ruby member, Target.declaration_eq, marker]
    simp only [Target.keyword, String.append_assoc]
  · intro field _
    simpa using Ruby.readSymbol_symbol field [] rfl

/-- Quotes, backslashes and number signs, which make no mark of code together, are read back. -/
theorem Document.symbols_denote_fields_iff_quotes
    : ∃ record ∈ (oneField "aB\"\\#\"\x7b$#").declarations,
        record.fields = ["a_b\"\\#\"\x7b$#"]
        ∧ Ruby.Defines (Target.ruby.arguments record.name record.fields).toList
            ["a_b\"\\#\"\x7b$#"] := by
  have cased : Text.snakeCase "aB\"\\#\"\x7b$#" = "a_b\"\\#\"\x7b$#" := by decide +kernel
  have member : (⟨"Kind", [], ["a_b\"\\#\"\x7b$#"]⟩ : Declaration)
      ∈ (oneField "aB\"\\#\"\x7b$#").declarations := by
    rw [declarations_oneField, cased]
    exact .head _
  obtain ⟨_, _, defines⟩ := Document.symbols_denote_fields_iff _ _ member
  refine ⟨_, member, rfl, (defines _).mpr ⟨rfl, ?_⟩⟩
  intro field among
  cases List.mem_singleton.mp among
  decide +kernel

/-- A property can put code between the quotes of its symbol. -/
theorem Document.symbol_read_as_code
    : ∃ record ∈ (oneField "#\x7bexit\x7d").declarations,
        ∃ field ∈ record.fields,
          field = "#\x7bexit\x7d"
          ∧ Ruby.readSymbol (Ruby.symbol field).toList = .code := by
  have cased : Text.snakeCase "#\x7bexit\x7d" = "#\x7bexit\x7d" := by decide +kernel
  rw [declarations_oneField, cased]
  exact ⟨_, .head _, _, .head _, rfl, by decide +kernel⟩

end RecordSmith
