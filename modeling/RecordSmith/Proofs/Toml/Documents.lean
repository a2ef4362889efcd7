import RecordSmith.Proofs.Toml.Strings
import RecordSmith.Toml.Reader

/-! A table that is written as a header and a line for each key is read back, whatever strings
its keys have.
-/

namespace RecordSmith.Toml

open RecordSmith.Text

-----------------------------------------------------------------------------------------
-- Keys
-----------------------------------------------------------------------------------------

/-- The key needs no quotes. -/
structure IsBare (key : String) : Prop where
  filled : key.toList ≠ []
  plain : key.toList.all isKeyChar = true

theorem not_isGap_of_isKeyChar {c : Char} (plain : isKeyChar c = true) : isGap c = false := by
  apply Bool.eq_false_iff.mpr
  intro gap
  simp only [isGap, Bool.or_eq_true, decide_eq_true_eq] at gap
  rcases gap with rfl | rfl <;> cases plain

theorem skipGap_of_head {c : Char} (solid : isGap c = false) (rest : List Char)
    : skipGap (c :: rest) = c :: rest := by
  simp [skipGap, solid]

namespace IsBare

variable {key : String}

theorem exists_cons (bare : IsBare key)
    : ∃ c rest, key.toList = c :: rest ∧ isKeyChar c = true := by
  cases chars : key.toList with
  | nil => exact absurd chars bare.filled
  | cons c rest =>
      have plain := bare.plain
      rw [chars] at plain
      exact ⟨c, rest, rfl, by simpa using (List.all_eq_true.mp plain) c (.head _)⟩

/-- A key without quotes is read up to the first character that is none of a key. -/
theorem reads_readSimpleKey {d : Char} (bare : IsBare key) (ends : isKeyChar d = false)
    (rest : List Char)
    : Reads (readSimpleKey (skipGap (key.toList ++ d :: rest))) key (d :: rest) := by
  obtain ⟨c, more, chars, first⟩ := bare.exists_cons
  have taken : (key.toList ++ d :: rest).takeWhile isKeyChar = key.toList := by
    rw [List.takeWhile_append_of_pos (List.all_eq_true.mp bare.plain)]
    simp [ends]
  have left : (key.toList ++ d :: rest).dropWhile isKeyChar = d :: rest := by
    rw [List.dropWhile_append_of_pos (List.all_eq_true.mp bare.plain)]
    simp [ends]
  have notDouble : c ≠ '"' := by
    rintro rfl
    cases first
  have notSingle : c ≠ '\'' := by
    rintro rfl
    cases first
  rw [chars, List.cons_append] at taken left ⊢
  rw [List.dropWhile_cons, if_pos first] at left
  rw [skipGap_of_head (not_isGap_of_isKeyChar first)]
  refine ⟨by simp only [List.length_cons, List.length_append]; omega, ?_⟩
  simp only [readSimpleKey, if_neg notDouble, if_neg notSingle, if_pos first, taken, left,
    ← chars, String.ofList_toList]

end IsBare

/-- A key without dots is read with the blanks behind it. -/
theorem reads_readKey {cs rest more : List Char} {name : String} {c : Char}
    (simple : Reads (readSimpleKey (skipGap cs)) name rest) (gap : skipGap rest = c :: more)
    (last : c ≠ '.')
    : Reads (readKey cs) [name] (c :: more) := by
  obtain ⟨shorter, read⟩ := simple
  have left : (c :: more).length < cs.length :=
    gap ▸ Nat.lt_of_le_of_lt (length_skipGap rest)
      (Nat.lt_of_lt_of_le shorter (length_skipGap cs))
  refine ⟨left, ?_⟩
  rw [readKey]
  simp only [read]
  split
  · next none _ => cases gap.symm.trans none
  · next held _ =>
      cases gap.symm.trans held
      rw [if_neg last]

-----------------------------------------------------------------------------------------
-- Values
-----------------------------------------------------------------------------------------

/-- A string begins with a quote. -/
theorem exists_quote_of_readString {cs rest : List Char} {text : String}
    (read : Reads (readString cs) text rest)
    : ∃ c more, cs = c :: more ∧ (c = '"' ∨ c = '\'') := by
  obtain ⟨_, read⟩ := read
  unfold readString at read
  split at read
  · exact ⟨_, _, rfl, .inl rfl⟩
  · exact ⟨_, _, rfl, .inr rfl⟩
  · exact ⟨_, _, rfl, .inl rfl⟩
  · exact ⟨_, _, rfl, .inr rfl⟩
  · cases read

theorem reads_readValue {cs rest : List Char} {text : String} (room : Nat)
    (read : Reads (readString cs) text rest)
    : Reads (readValue room cs) (.string text) rest := by
  obtain ⟨c, more, rfl, quote⟩ := exists_quote_of_readString read
  obtain ⟨shorter, read⟩ := read
  have notBracket : c ≠ '[' := by
    rcases quote with rfl | rfl <;> decide
  have notBrace : c ≠ '\x7b' := by
    rcases quote with rfl | rfl <;> decide
  refine ⟨shorter, ?_⟩
  rw [readValue, if_neg notBracket, if_neg notBrace, if_pos (by simpa using quote)]
  simp only [read]

theorem reads_readPair {cs rest left : List Char} {names : List String} {value : Toml}
    {room : Nat} (key : Reads (readKey cs) names ('=' :: rest))
    (read : Reads (readValue room (skipGap rest)) value left)
    : Reads (readPair room cs) (names, value) left := by
  obtain ⟨keyShorter, key⟩ := key
  obtain ⟨shorter, read⟩ := read
  refine ⟨Nat.lt_trans shorter
    (Nat.lt_of_le_of_lt (length_skipGap rest) (Nat.lt_of_succ_lt keyShorter)), ?_⟩
  rw [readPair]
  simp only [key, if_true, read]

/-- The text of a line that sets a key. -/
def lineText (key value : String) : List Char :=
  key.toList ++ ' ' :: '=' :: ' ' :: ((stringText value).toList ++ ['\n'])

/-- A line that sets a key is read as its key and its string. -/
theorem reads_lineText {key : String} (bare : IsBare key) (value : String) (rest : List Char)
    (room : Nat)
    : Reads (readPair room (lineText key value ++ rest)) ([key], .string value)
        ('\n' :: rest) := by
  let written := (stringText value).toList ++ '\n' :: rest
  have line : lineText key value ++ rest = key.toList ++ ' ' :: '=' :: ' ' :: written := by
    simp [lineText, written]
  have string : Reads (readString written) value ('\n' :: rest) :=
    reads_readString value (by simp)
  have gap : skipGap (' ' :: written) = written := by
    obtain ⟨c, more, chars, quote⟩ := exists_quote_of_readString string
    have solid : isGap c = false := by
      rcases quote with rfl | rfl <;> rfl
    rw [chars]
    exact skipGap_of_head solid more
  rw [line]
  apply reads_readPair (reads_readKey (bare.reads_readSimpleKey rfl _) rfl (by decide))
  rw [gap]
  exact reads_readValue room string

-----------------------------------------------------------------------------------------
-- Lines
-----------------------------------------------------------------------------------------

theorem readLine?_of_isKeyChar {c : Char} (plain : isKeyChar c = true) (draft : Draft)
    (rest : List Char)
    : readLine? draft (c :: rest) = readEntry? draft (c :: rest) := by
  unfold readLine?
  rw [skipGap_of_head (not_isGap_of_isKeyChar plain)]
  split
  · next none => cases none
  · next same =>
      cases same
      cases plain
  · next same =>
      cases same
      cases plain
  · next d more _ _ same =>
      cases same
      have solid : ¬ (decide (c = '#') || decide (c = '\n') || decide (c = '\r')) = true := by
        simp only [Bool.or_eq_true, decide_eq_true_eq]
        rintro ((rfl | rfl) | rfl) <;> cases plain
      rw [if_neg solid]

/-- A document under construction whose last table, with its own header, takes the keys. -/
def openDraft (front : Parts) (name : String) (inner : Parts) : Draft :=
  ⟨front ++ [(name, .table .header inner)], some ([], name)⟩

/-- A line that sets a new key adds its string to the open table. -/
theorem readLine?_lineText {front inner : Parts} {name key : String}
    (nameFresh : name ∉ Entries.names front) (keyFresh : key ∉ Entries.names inner)
    (bare : IsBare key) (value : String) (rest : List Char)
    : readLine? (openDraft front name inner) (lineText key value ++ rest)
      = some (openDraft front name (inner ++ [(key, .value (.string value))]), rest) := by
  obtain ⟨c, more, chars, plain⟩ := bare.exists_cons
  obtain ⟨_, pair⟩ := reads_lineText bare value rest nestingLimit
  have entry
      : readLine? (openDraft front name inner) (lineText key value ++ rest)
        = readEntry? (openDraft front name inner) (lineText key value ++ rest) := by
    simp only [lineText, chars, List.cons_append]
    exact readLine?_of_isKeyChar plain _ _
  have split : splitKey? [key] = some ([], key) := rfl
  have ended : endLine? ('\n' :: rest) = some rest := rfl
  rw [entry]
  unfold readEntry?
  simp only [pair, split, openDraft, alter, addInside, addValue,
    Entries.find?_concat nameFresh, Entries.find?_of_not_mem keyFresh,
    Entries.put_concat nameFresh, ended, Option.bind_eq_bind, Option.bind_some,
    Option.isNone_none, Bool.and_self, if_true, Option.pure_def]

/-- A header opens a new table. -/
theorem readLine?_header {parts : Parts} {name : String} (fresh : name ∉ Entries.names parts)
    (bare : IsBare name) (header : Option (List String × String)) (rest : List Char)
    : readLine? ⟨parts, header⟩ ('[' :: (name.toList ++ ']' :: '\n' :: rest))
      = some (openDraft parts name [], rest) := by
  obtain ⟨c, more, chars, plain⟩ := bare.exists_cons
  have single (after : List Char) : name.toList ++ ']' :: '\n' :: rest ≠ '[' :: after := by
    intro double
    rw [chars] at double
    cases double
    cases plain
  have gap : skipGap (']' :: '\n' :: rest) = ']' :: '\n' :: rest := rfl
  obtain ⟨_, key⟩ :=
    reads_readKey (bare.reads_readSimpleKey rfl ('\n' :: rest)) gap (by decide)
  have split : splitKey? [name] = some ([], name) := rfl
  have ended : endLine? ('\n' :: rest) = some rest := rfl
  have closed : [']'].isPrefixOf? (']' :: '\n' :: rest) = some ('\n' :: rest) := rfl
  have line
      : readLine? ⟨parts, header⟩ ('[' :: (name.toList ++ ']' :: '\n' :: rest))
        = readHeader? openTable [']'] ⟨parts, header⟩ (name.toList ++ ']' :: '\n' :: rest) := by
    unfold readLine?
    rw [skipGap_of_head rfl]
    split
    · next none => cases none
    · next same => exact absurd (List.cons.inj same).2 (single _)
    · next same =>
        cases same
        rfl
    · next notBracket same =>
        cases same
        exact (notBracket rfl).elim
  rw [line]
  simp only [readHeader?, key, closed, split, alter, openTable, Entries.find?_of_not_mem fresh,
    ended, openDraft, Option.bind_eq_bind, Option.bind_some, Option.pure_def]

theorem readLine?_empty (draft : Draft) (rest : List Char)
    : readLine? draft ('\n' :: rest) = some (draft, rest) :=
  rfl

/-- What is read of a line leaves the other lines to be read. -/
theorem readLines_of_readLine? {draft next : Draft} {line rest : List Char}
    (filled : line ≠ []) (read : readLine? draft (line ++ rest) = some (next, rest))
    : readLines draft (line ++ rest) = readLines next rest := by
  have shorter : rest.length < (line ++ rest).length := by
    have := List.length_pos_iff.mpr filled
    rw [List.length_append]
    omega
  rw [readLines, if_neg (by simp [filled])]
  simp only [read, Option.bind_some, Parsed.ofRest?, dif_pos shorter]

-----------------------------------------------------------------------------------------
-- Tables
-----------------------------------------------------------------------------------------

/-- The text of a table of strings: its header and a line for each of its keys. -/
def tableText (name : String) (entries : List (String × String)) : List Char :=
  '[' :: (name.toList ++ ']' :: '\n' :: entries.flatMap fun entry => lineText entry.1 entry.2)

/-- Strings as parts of a document. -/
def stringParts (entries : List (String × String)) : Parts :=
  entries.map fun entry => (entry.1, .value (.string entry.2))

/-- Lines that set keys add their strings to the open table, by induction over the lines. -/
theorem readLines_lines {front inner : Parts} {name : String}
    {entries : List (String × String)} (nameFresh : name ∉ Entries.names front)
    (bare : ∀ key ∈ Entries.names entries, IsBare key)
    (distinct : (Entries.names inner ++ Entries.names entries).Nodup) (rest : List Char)
    : readLines (openDraft front name inner)
        ((entries.flatMap fun entry => lineText entry.1 entry.2) ++ rest)
      = readLines (openDraft front name (inner ++ stringParts entries)) rest := by
  induction entries generalizing inner with
  | nil => simp [stringParts]
  | cons entry entries ih =>
      obtain ⟨key, value⟩ := entry
      simp only [Entries.names, List.map_cons, List.forall_mem_cons] at bare
      have keyFresh : key ∉ Entries.names inner := by
        intro among
        exact (List.nodup_append.mp distinct).2.2 key among key (.head _) rfl
      have filled : lineText key value ≠ [] := by simp [lineText]
      have first := readLine?_lineText nameFresh keyFresh bare.1 value
        ((entries.flatMap fun entry => lineText entry.1 entry.2) ++ rest)
      rw [List.flatMap_cons, List.append_assoc, readLines_of_readLine? filled first, ih bare.2]
      · simp [stringParts]
      · simpa [Entries.names] using distinct

/-- A table of strings is read into a document that does not have it. -/
theorem readLines_tableText {parts : Parts} {name : String}
    {entries : List (String × String)} (fresh : name ∉ Entries.names parts)
    (bareName : IsBare name) (bare : ∀ key ∈ Entries.names entries, IsBare key)
    (distinct : (Entries.names entries).Nodup) (header : Option (List String × String))
    (rest : List Char)
    : readLines ⟨parts, header⟩ (tableText name entries ++ rest)
      = readLines (openDraft parts name (stringParts entries)) rest := by
  let lines := (entries.flatMap fun entry => lineText entry.1 entry.2) ++ rest
  have text
      : tableText name entries ++ rest
        = ('[' :: (name.toList ++ [']', '\n'])) ++ lines := by
    simp [tableText, lines]
  have first := readLine?_header fresh bareName header lines
  rw [text, readLines_of_readLine? (List.cons_ne_nil _ _) (by simpa using first)]
  have nothingBefore : (Entries.names ([] : Parts) ++ Entries.names entries).Nodup := distinct
  exact readLines_lines fresh bare nothingBefore rest

-----------------------------------------------------------------------------------------
-- Documents
-----------------------------------------------------------------------------------------

/-- A table of strings has keys that need no quotes, and no two of them are the same. -/
structure IsBareTable (table : String × List (String × String)) : Prop where
  name : IsBare table.1
  keys : ∀ key ∈ Entries.names table.2, IsBare key
  distinct : (Entries.names table.2).Nodup

/-- The text of tables of strings, with an empty line before each but the first. -/
def documentText : List (String × List (String × String)) → List Char
  | [] => []
  | [(name, entries)] => tableText name entries
  | (name, entries) :: next :: rest =>
      tableText name entries ++ '\n' :: documentText (next :: rest)

/-- Tables of strings as parts of a document. -/
def tableParts (tables : List (String × List (String × String))) : Parts :=
  tables.map fun table => (table.1, .table .header (stringParts table.2))

/-- Tables of strings as the entries of a root table. -/
def stringTables (tables : List (String × List (String × String))) : List (String × Toml) :=
  tables.map fun table =>
    (table.1, .table (table.2.map fun entry => (entry.1, .string entry.2)))

theorem readLines_nil (draft : Draft) : readLines draft [] = some draft := by
  rw [readLines]
  exact if_pos rfl

theorem readLines_empty (draft : Draft) (rest : List Char)
    : readLines draft ('\n' :: rest) = readLines draft rest :=
  readLines_of_readLine? (List.cons_ne_nil '\n' []) (readLine?_empty draft rest)

/-- The tables of a document are read one after the other, by induction over them. -/
theorem readLines_documentText {tables : List (String × List (String × String))}
    {parts : Parts} (bare : ∀ table ∈ tables, IsBareTable table)
    (distinct : (Entries.names parts ++ Entries.names tables).Nodup)
    (header : Option (List String × String))
    : ∃ last,
        readLines ⟨parts, header⟩ (documentText tables)
        = some ⟨parts ++ tableParts tables, last⟩ := by
  induction tables generalizing parts header with
  | nil => exact ⟨header, by simp [documentText, tableParts, readLines_nil]⟩
  | cons table rest ih =>
      obtain ⟨name, entries⟩ := table
      obtain ⟨first, bareRest⟩ := List.forall_mem_cons.mp bare
      have fresh : name ∉ Entries.names parts := by
        intro among
        exact (List.nodup_append.mp distinct).2.2 name among name (.head _) rfl
      have read (rest : List Char) :=
        readLines_tableText fresh first.name first.keys first.distinct header rest
      cases rest with
      | nil =>
          refine ⟨some ([], name), ?_⟩
          have whole := read []
          rw [List.append_nil] at whole
          rw [documentText, whole, readLines_nil]
          rfl
      | cons next rest =>
          have later
              : (Entries.names (parts ++ [(name, Part.table .header (stringParts entries))])
                ++ Entries.names (next :: rest)).Nodup := by
            simpa [Entries.names] using distinct
          obtain ⟨last, result⟩ := ih bareRest later (some ([], name))
          refine ⟨last, ?_⟩
          rw [documentText, read, readLines_empty]
          simpa [openDraft, tableParts] using result

theorem partsToToml_stringParts (entries : List (String × String))
    : partsToToml (stringParts entries)
      = entries.map fun entry => (entry.1, .string entry.2) := by
  induction entries with
  | nil => simp [stringParts, partsToToml]
  | cons entry rest ih =>
      simp only [stringParts, List.map_cons, partsToToml, Part.toToml] at ih ⊢
      rw [ih]

theorem partsToToml_tableParts (tables : List (String × List (String × String)))
    : partsToToml (tableParts tables) = stringTables tables := by
  induction tables with
  | nil => simp [tableParts, partsToToml, stringTables]
  | cons head rest ih =>
      simp only [tableParts, stringTables, List.map_cons, partsToToml, Part.toToml,
        partsToToml_stringParts] at ih ⊢
      rw [ih]

/-- A key without quotes does not mark a moment. -/
theorem IsBare.ne_momentMark {key : String} (bare : IsBare key) : key ≠ momentMark := by
  rintro rfl
  cases bare.plain

theorem marked?_of_bare {entries : List (String × Toml)}
    (bare : ∀ key ∈ Entries.names entries, IsBare key)
    : marked? entries = none := by
  cases entries with
  | nil => rfl
  | cons entry rest =>
      obtain ⟨key, value⟩ := entry
      exact if_neg (bare key (.head _)).ne_momentMark

theorem settleEntries?_strings (entries : List (String × String))
    : settleEntries? (entries.map fun entry => (entry.1, .string entry.2))
      = some (entries.map fun entry => (entry.1, .string entry.2)) := by
  induction entries with
  | nil => simp [settleEntries?]
  | cons entry rest ih => simp [settleEntries?, settle?, ih]

theorem settleEntries?_stringTables {tables : List (String × List (String × String))}
    (bare : ∀ table ∈ tables, IsBareTable table)
    : settleEntries? (stringTables tables) = some (stringTables tables) := by
  induction tables with
  | nil => simp [stringTables, settleEntries?]
  | cons head rest ih =>
      obtain ⟨first, bareRest⟩ := List.forall_mem_cons.mp bare
      have unmarked : marked? (head.2.map fun entry => (entry.1, Toml.string entry.2)) = none := by
        apply marked?_of_bare
        simpa [Entries.names] using first.keys
      have later := ih bareRest
      simp only [stringTables, List.map_cons, settleEntries?, settle?, unmarked,
        settleEntries?_strings] at later ⊢
      simp [later]

theorem skipByteOrderMark_documentText (tables : List (String × List (String × String)))
    : skipByteOrderMark (documentText tables) = documentText tables := by
  match tables with
  | [] => rfl
  | [(_, _)] => rfl
  | (_, _) :: _ :: _ => rfl

/-- A document of tables of strings is read back. -/
theorem read?_documentText {tables : List (String × List (String × String))}
    (bare : ∀ table ∈ tables, IsBareTable table) (distinct : (Entries.names tables).Nodup)
    : read? (String.ofList (documentText tables)) = some (stringTables tables) := by
  have nothingBefore : (Entries.names ([] : Parts) ++ Entries.names tables).Nodup := distinct
  obtain ⟨last, read⟩ := readLines_documentText bare nothingBefore none
  have unmarked : marked? (stringTables tables) = none := by
    apply marked?_of_bare
    intro key among
    simp only [Entries.names, stringTables, List.map_map, List.mem_map, Function.comp_apply]
      at among
    obtain ⟨table, member, rfl⟩ := among
    exact (bare table member).name
  unfold read?
  rw [String.toList_ofList, skipByteOrderMark_documentText, read, Option.bind_some,
    List.nil_append, partsToToml_tableParts, settleRoot?, unmarked]
  exact settleEntries?_stringTables bare

end RecordSmith.Toml
