import RecordSmith.Toml.Quotation
import RecordSmith.Toml.Writer

/-! A string is read back from between the quotes that are chosen for it, whatever characters it
holds.
-/

namespace RecordSmith.Toml

open RecordSmith.Text

/-- A reader took the value and left the rest. -/
def Reads {α : Type} {limit : Nat} (read : Option (Parsed α limit)) (value : α)
    (rest : List Char)
    : Prop :=
  ∃ shorter, read = some ⟨value, rest, shorter⟩

-----------------------------------------------------------------------------------------
-- Escapes
-----------------------------------------------------------------------------------------

theorem isPlain_of_not_isControl {c : Char} (free : isControl c = false) (inLine : c ≠ '\n')
    : isPlain c = true := by
  simp only [isControl, inLine, Bool.and_eq_false_iff, Bool.or_eq_false_iff,
    decide_eq_false_iff_not, ne_eq, not_false_eq_true, decide_true, or_false,
    Bool.true_eq_false] at free
  simp only [isPlain, Bool.or_eq_true, Bool.and_eq_true, decide_eq_true_eq]
  by_cases tab : c = '\t'
  · exact .inl tab
  · simp only [tab, not_false_eq_true, not_true_eq_false, or_false] at free
    omega

theorem hexValue?_digit : ∀ value < 16, hexValue? (Nat.digitChar value).toUpper = some value := by
  decide

/-- The four digits of a code point below 256 are read back. -/
theorem reads_codeEscape {c : Char} (low : c.toNat < 256) (limit : Nat) (rest : List Char)
    (fits : ('0' :: '0' :: (Nat.digitChar (c.toNat / 16)).toUpper
      :: (Nat.digitChar (c.toNat % 16)).toUpper :: rest).length < limit)
    : Reads (readCode limit 4 ('0' :: '0' :: (Nat.digitChar (c.toNat / 16)).toUpper
        :: (Nat.digitChar (c.toNat % 16)).toUpper :: rest) fits) c rest := by
  have zero : hexValue? '0' = some 0 := rfl
  have high := hexValue?_digit (c.toNat / 16) (by omega)
  have lower := hexValue?_digit (c.toNat % 16) (by omega)
  have value : (((0 * 16 + 0) * 16 + 0) * 16 + c.toNat / 16) * 16 + c.toNat % 16 = c.toNat := by
    omega
  have valid : c.toNat.isValidChar := .inl (by omega)
  refine ⟨by simp only [List.length_cons] at fits; omega, ?_⟩
  simp only [readCode, readHex, zero, high, lower, value, valid, if_true, Char.ofNat_toNat]

/-- What follows a backslash is read as the character, and does not continue the line. -/
structure Spells (code : List Char) (c : Char) : Prop where
  reads (rest : List Char)
    : Reads (readEscape (code ++ rest).length (code ++ rest) (Nat.le_refl _)) c rest
  solid (rest : List Char) : continueLine? (code ++ rest) = none

/-- The characters that a letter or a sign spells. -/
def shortSpellings : List (Char × Char) :=
  [('b', '\x08'), ('t', '\t'), ('n', '\n'), ('f', '\x0c'), ('r', '\r'), ('"', '"'), ('\\', '\\')]

theorem spells_of_mem {letter c : Char} (short : (letter, c) ∈ shortSpellings)
    : Spells [letter] c := by
  simp only [shortSpellings, List.mem_cons, Prod.mk.injEq, List.not_mem_nil, or_false] at short
  rcases short with ⟨rfl, rfl⟩ | ⟨rfl, rfl⟩ | ⟨rfl, rfl⟩ | ⟨rfl, rfl⟩ | ⟨rfl, rfl⟩ | ⟨rfl, rfl⟩
    | ⟨rfl, rfl⟩
  all_goals exact ⟨fun _ => ⟨_, rfl⟩, fun _ => rfl⟩

theorem spells_code {c : Char} (low : c.toNat < 256) : Spells (codeEscape c).tail c :=
  ⟨fun rest => reads_codeEscape low _ rest _, fun _ => rfl⟩

/-- Between double quotes a character stands for itself, or it is spelled by what follows a
backslash. A line feed stands for itself only in a string with several lines.
-/
theorem escaped_cases (multi : Bool) {c : Char} (other : c ≠ '"')
    : (escaped multi c = [c] ∧ c ≠ '\\' ∧ isPlain c = true)
      ∨ (escaped multi c = ['\n'] ∧ c = '\n' ∧ multi = true)
      ∨ ∃ code, escaped multi c = '\\' :: code ∧ Spells code c := by
  unfold escaped
  split
  · next same =>
      subst same
      exact .inr (.inr ⟨['b'], rfl, spells_of_mem (by decide)⟩)
  split
  · next same =>
      subst same
      exact .inr (.inr ⟨['t'], rfl, spells_of_mem (by decide)⟩)
  split
  · next same =>
      subst same
      cases multi with
      | true => exact .inr (.inl ⟨rfl, rfl, rfl⟩)
      | false => exact .inr (.inr ⟨['n'], rfl, spells_of_mem (by decide)⟩)
  next inLine =>
  split
  · next same =>
      subst same
      exact .inr (.inr ⟨['f'], rfl, spells_of_mem (by decide)⟩)
  split
  · next same =>
      subst same
      exact .inr (.inr ⟨['r'], rfl, spells_of_mem (by decide)⟩)
  split
  · next same =>
      subst same
      exact .inr (.inr ⟨['\\'], rfl, spells_of_mem (by decide)⟩)
  next notBackslash =>
  split
  · next control =>
      have low : c.toNat < 256 := by
        simp only [isControl, Bool.and_eq_true, Bool.or_eq_true, decide_eq_true_eq] at control
        omega
      exact .inr (.inr ⟨_, rfl, spells_code low⟩)
  · next free =>
      refine .inl ⟨rfl, notBackslash, isPlain_of_not_isControl ?_ inLine⟩
      exact Bool.eq_false_iff.mpr free

/-- The characters that were read stand last first. -/
theorem reverse_append_cons (done cs : List Char) (c : Char)
    : done.reverse ++ c :: cs = (c :: done).reverse ++ cs := by
  rw [List.append_cons, List.reverse_cons]

-----------------------------------------------------------------------------------------
-- One line
-----------------------------------------------------------------------------------------

section

variable {limit : Nat} {done rest left : List Char} {c : Char} {text : String}

theorem readBasic_plain (notQuote : c ≠ '"') (notBackslash : c ≠ '\\')
    (plain : isPlain c = true) {fits : (c :: rest).length ≤ limit}
    (later : ∀ fits, Reads (readBasic limit (c :: done) rest fits) text left)
    : Reads (readBasic limit done (c :: rest) fits) text left := by
  rw [readBasic, if_neg notQuote, if_neg notBackslash, if_pos plain]
  exact later _

theorem readBasic_spelled {code : List Char} (spells : Spells code c)
    {fits : ('\\' :: (code ++ rest)).length ≤ limit}
    (later : ∀ fits, Reads (readBasic limit (c :: done) rest fits) text left)
    : Reads (readBasic limit done ('\\' :: (code ++ rest)) fits) text left := by
  obtain ⟨_, read⟩ := spells.reads rest
  rw [readBasic, if_neg (by decide), if_pos rfl]
  simp only [read]
  exact later _

end

/-- A string with escapes is read back up to its closing quote, by induction over its
characters.
-/
theorem reads_readBasic (cs rest done : List Char) (limit : Nat)
    (fits : (escapedFrom false 0 cs ++ '"' :: rest).length ≤ limit)
    : Reads (readBasic limit done (escapedFrom false 0 cs ++ '"' :: rest) fits)
        (String.ofList (done.reverse ++ cs)) rest := by
  induction cs generalizing done with
  | nil =>
      refine ⟨fits, ?_⟩
      simp only [escapedFrom, List.nil_append, List.append_nil]
      rw [readBasic, if_pos rfl]
  | cons c cs ih =>
      rw [reverse_append_cons done]
      by_cases quote : c = '"'
      · subst quote
        have spells : Spells ['"'] '"' := spells_of_mem (by decide)
        exact readBasic_spelled spells (ih _)
      · have body : escapedFrom false 0 (c :: cs) = escaped false c ++ escapedFrom false 0 cs :=
          if_neg quote
        rcases escaped_cases false quote with ⟨same, notBackslash, plain⟩ | ⟨_, _, no⟩
          | ⟨code, same, spells⟩
        · simp only [body, same, List.cons_append]
          exact readBasic_plain quote notBackslash plain (ih _)
        · cases no
        · simp only [body, same, List.append_assoc, List.cons_append]
          exact readBasic_spelled spells (ih _)

/-- A string without escapes is read back up to its closing quote. -/
theorem reads_readLiteral {cs : List Char} (plain : ∀ c ∈ cs, c ≠ '\'' ∧ isPlain c = true)
    (rest done : List Char) (limit : Nat) (fits : (cs ++ '\'' :: rest).length ≤ limit)
    : Reads (readLiteral limit done (cs ++ '\'' :: rest) fits)
        (String.ofList (done.reverse ++ cs)) rest := by
  induction cs generalizing done with
  | nil =>
      refine ⟨fits, ?_⟩
      rw [List.append_nil]
      exact if_pos rfl
  | cons c cs ih =>
      obtain ⟨⟨notQuote, isPlain⟩, plain⟩ := List.forall_mem_cons.mp plain
      rw [reverse_append_cons done]
      simp only [List.cons_append, readLiteral, if_neg notQuote, if_pos isPlain]
      exact ih plain _ _

-----------------------------------------------------------------------------------------
-- Runs of quotes
-----------------------------------------------------------------------------------------

/-- At a quote the reader counts the quotes ahead: three or more end the string, fewer belong to
it.
-/
def CountsQuotes (limit : Nat) (quote : Char)
    (read : List Char → (cs : List Char) → cs.length ≤ limit → Option (Parsed String limit))
    : Prop :=
  ∀ done rest (fits : (quote :: rest).length ≤ limit),
    read done (quote :: rest) fits
    = if 3 ≤ quoteCount quote (quote :: rest) then
        some (closeQuotes limit quote done (quoteCount quote (quote :: rest)) (quote :: rest)
          fits (Nat.succ_pos rest.length))
      else read (quote :: done) rest (length_le_of_lt fits)

theorem quoteCount_replicate {quote : Char} {rest : List Char}
    (ends : ∀ c ∈ rest.head?, c ≠ quote) (count : Nat)
    : quoteCount quote (List.replicate count quote ++ rest) = count := by
  have stops : rest.takeWhile (· = quote) = [] := by
    cases rest with
    | nil => rfl
    | cons c rest => simp [ends c rfl]
  simp [quoteCount, stops]

theorem replicate_append_cons (count : Nat) (c : Char) (rest : List Char)
    : List.replicate count c ++ c :: rest = List.replicate (count + 1) c ++ rest := by
  rw [List.replicate_succ', List.append_assoc, List.singleton_append]

namespace CountsQuotes

variable {limit : Nat} {quote : Char}
  {read : List Char → (cs : List Char) → cs.length ≤ limit → Option (Parsed String limit)}
  {rest : List Char} {count : Nat}

/-- Fewer than three quotes before another character belong to the string. -/
theorem reads_inside {done left : List Char} {text : String}
    (counts : CountsQuotes limit quote read) (ends : ∀ c ∈ rest.head?, c ≠ quote)
    (few : count ≤ 2) {fits : (List.replicate count quote ++ rest).length ≤ limit}
    (later : ∀ fits, Reads (read (List.replicate count quote ++ done) rest fits) text left)
    : Reads (read done (List.replicate count quote ++ rest) fits) text left := by
  induction count generalizing done with
  | zero => exact later fits
  | succ count ih =>
      have number := quoteCount_replicate ends (count + 1)
      simp only [List.replicate_succ, List.cons_append] at number ⊢
      rw [counts, number, if_neg (by omega)]
      apply ih (by omega)
      rw [replicate_append_cons]
      exact later

/-- Up to two quotes before the three that end the string belong to it. -/
theorem reads_closing (counts : CountsQuotes limit quote read)
    (ends : ∀ c ∈ rest.head?, c ≠ quote) (few : count ≤ 2) (done : List Char)
    (fits : (List.replicate count quote ++ quote :: quote :: quote :: rest).length ≤ limit)
    : Reads (read done (List.replicate count quote ++ quote :: quote :: quote :: rest) fits)
        (String.ofList (done.reverse ++ List.replicate count quote)) rest := by
  have number := quoteCount_replicate ends (count + 3)
  have inner : min (count + 3 - 3) 2 = count := by omega
  have left : (List.replicate (count + 3) quote ++ rest).drop (count + 3) = rest := by simp
  simp only [replicate_append_cons] at fits ⊢
  simp only [List.replicate_succ, List.cons_append] at fits number left ⊢
  refine ⟨by simp only [List.length_cons, List.length_append] at fits; omega, ?_⟩
  rw [counts, number, if_pos (by omega)]
  simp only [closeQuotes, inner, left]

end CountsQuotes

-----------------------------------------------------------------------------------------
-- Several lines
-----------------------------------------------------------------------------------------

section

variable {limit : Nat} {done rest left : List Char} {c : Char} {text : String}

theorem readMultiBasic_countsQuotes : CountsQuotes limit '"' (readMultiBasic limit) := by
  intro done rest fits
  rw [readMultiBasic, if_pos rfl]

theorem readMultiBasic_plain (notQuote : c ≠ '"') (notBackslash : c ≠ '\\')
    (notReturn : c ≠ '\r') (plain : c = '\n' ∨ isPlain c = true)
    {fits : (c :: rest).length ≤ limit}
    (later : ∀ fits, Reads (readMultiBasic limit (c :: done) rest fits) text left)
    : Reads (readMultiBasic limit done (c :: rest) fits) text left := by
  rw [readMultiBasic, if_neg notQuote, if_neg notBackslash, if_neg (by simp [notReturn]),
    if_pos (by simpa using plain)]
  exact later _

theorem readMultiBasic_spelled {code : List Char} (spells : Spells code c)
    {fits : ('\\' :: (code ++ rest)).length ≤ limit}
    (later : ∀ fits, Reads (readMultiBasic limit (c :: done) rest fits) text left)
    : Reads (readMultiBasic limit done ('\\' :: (code ++ rest)) fits) text left := by
  obtain ⟨_, read⟩ := spells.reads rest
  rw [readMultiBasic, if_neg (by decide), if_pos rfl]
  split
  · next held => cases (spells.solid rest).symm.trans held
  · simp only [read]
    exact later _

/-- A character other than a double quote is read back as it is written. -/
theorem readMultiBasic_escaped (notQuote : c ≠ '"')
    {fits : (escaped true c ++ rest).length ≤ limit}
    (later : ∀ fits, Reads (readMultiBasic limit (c :: done) rest fits) text left)
    : Reads (readMultiBasic limit done (escaped true c ++ rest) fits) text left := by
  rcases escaped_cases true notQuote with ⟨same, notBackslash, plain⟩ | ⟨same, rfl, _⟩
    | ⟨code, same, spells⟩
  · have notReturn : c ≠ '\r' := by
      rintro rfl
      cases plain
    simp only [same, List.cons_append]
    exact readMultiBasic_plain notQuote notBackslash notReturn (.inr plain) later
  · simp only [same, List.cons_append]
    exact readMultiBasic_plain notQuote (by decide) (by decide) (.inl rfl) later
  · simp only [same, List.cons_append]
    exact readMultiBasic_spelled spells later

theorem head?_escaped (multi : Bool) (notQuote : c ≠ '"')
    : ∀ first ∈ (escaped multi c ++ rest).head?, first ≠ '"' := by
  intro first head
  rcases escaped_cases multi notQuote with ⟨same, _⟩ | ⟨same, _⟩ | ⟨code, same, _⟩
  · rw [same] at head
    cases head
    exact notQuote
  · rw [same] at head
    cases head
    decide
  · rw [same] at head
    cases head
    decide

theorem readMultiLiteral_countsQuotes : CountsQuotes limit '\'' (readMultiLiteral limit) := by
  intro done rest fits
  rw [readMultiLiteral, if_pos rfl]

theorem readMultiLiteral_plain (notQuote : c ≠ '\'') (free : isControl c = false)
    {fits : (c :: rest).length ≤ limit}
    (later : ∀ fits, Reads (readMultiLiteral limit (c :: done) rest fits) text left)
    : Reads (readMultiLiteral limit done (c :: rest) fits) text left := by
  have notReturn : c ≠ '\r' := by
    rintro rfl
    cases free
  have plain : c = '\n' ∨ isPlain c = true := by
    by_cases feed : c = '\n'
    · exact .inl feed
    · exact .inr (isPlain_of_not_isControl free feed)
  rw [readMultiLiteral, if_neg notQuote, if_neg (by simp [notReturn]),
    if_pos (by simpa using plain)]
  exact later _

end

/-- A string with escapes is read back up to its three closing quotes, by induction over its
characters. The quotes met last are still to be read, because only what comes behind them tells
whether they stand before the closing ones.
-/
theorem reads_readMultiBasic {rest : List Char} (ends : ∀ c ∈ rest.head?, c ≠ '"')
    (cs done : List Char) (limit : Nat) {quotes : Nat} (few : quotes ≤ 2)
    (fits
      : (List.replicate quotes '"'
          ++ (escapedFrom true quotes cs ++ '"' :: '"' :: '"' :: rest)).length ≤ limit)
    : Reads
        (readMultiBasic limit done
          (List.replicate quotes '"'
            ++ (escapedFrom true quotes cs ++ '"' :: '"' :: '"' :: rest)) fits)
        (String.ofList (done.reverse ++ (List.replicate quotes '"' ++ cs))) rest := by
  have counts : CountsQuotes limit '"' (readMultiBasic limit) := readMultiBasic_countsQuotes
  induction cs generalizing done quotes with
  | nil =>
      rw [List.append_nil]
      exact counts.reads_closing ends few done fits
  | cons c cs ih =>
      have passed : done.reverse ++ (List.replicate quotes '"' ++ c :: cs)
          = (c :: (List.replicate quotes '"' ++ done)).reverse ++ ([] ++ cs) := by
        simp
      by_cases quote : c = '"'
      · subst quote
        by_cases full : quotes + 1 > 2
        · have spells : Spells ['"'] '"' := spells_of_mem (by decide)
          simp only [escapedFrom, if_true, if_pos full, passed]
          apply counts.reads_inside (by simp) few
          intro _
          exact readMultiBasic_spelled spells (ih _ (Nat.zero_le 2))
        · simp only [escapedFrom, if_true, if_neg full, List.cons_append, replicate_append_cons]
          exact ih done (by omega) _
      · simp only [escapedFrom, if_neg quote, List.append_assoc, passed]
        apply counts.reads_inside (head?_escaped true quote) few
        intro _
        exact readMultiBasic_escaped quote (ih _ (Nat.zero_le 2))

theorem le_longestRunFrom (quote : Char) (current : Nat) (cs : List Char)
    : current ≤ longestRunFrom quote current cs := by
  induction cs generalizing current with
  | nil => exact Nat.le_refl current
  | cons c rest ih =>
      unfold longestRunFrom
      split
      · exact Nat.le_of_succ_le (ih (current + 1))
      · exact Nat.le_max_left _ _

/-- A string without escapes is read back up to its three closing quotes, by the same
induction.
-/
theorem reads_readMultiLiteral {rest : List Char} (ends : ∀ c ∈ rest.head?, c ≠ '\'')
    {cs : List Char} (free : ∀ c ∈ cs, isControl c = false) (done : List Char) (limit : Nat)
    {quotes : Nat} (few : longestRunFrom '\'' quotes cs ≤ 2)
    (fits
      : (List.replicate quotes '\'' ++ (cs ++ '\'' :: '\'' :: '\'' :: rest)).length ≤ limit)
    : Reads
        (readMultiLiteral limit done
          (List.replicate quotes '\'' ++ (cs ++ '\'' :: '\'' :: '\'' :: rest)) fits)
        (String.ofList (done.reverse ++ (List.replicate quotes '\'' ++ cs))) rest := by
  have counts : CountsQuotes limit '\'' (readMultiLiteral limit) :=
    readMultiLiteral_countsQuotes
  induction cs generalizing done quotes with
  | nil =>
      rw [List.append_nil]
      exact counts.reads_closing ends few done fits
  | cons c cs ih =>
      obtain ⟨first, freeLater⟩ := List.forall_mem_cons.mp free
      unfold longestRunFrom at few
      split at few
      · next quote =>
          subst quote
          simp only [List.cons_append, replicate_append_cons]
          exact ih freeLater done few _
      · next quote =>
          obtain ⟨few, fewLater⟩ := Nat.max_le.mp few
          have passed : done.reverse ++ (List.replicate quotes '\'' ++ c :: cs)
              = (c :: (List.replicate quotes '\'' ++ done)).reverse ++ ([] ++ cs) := by
            simp
          simp only [List.cons_append, passed]
          apply counts.reads_inside (by simpa using quote) few
          intro _
          exact readMultiLiteral_plain quote first (ih freeLater _ fewLater)

-----------------------------------------------------------------------------------------
-- Any kind
-----------------------------------------------------------------------------------------

/-- The string can be written between quotes of the kind: it has to do without escapes where there
are none.
-/
def Quotes.Suits (cs : List Char) : Quotes → Prop
  | .literal => (∀ c ∈ cs, isControl c = false) ∧ longestRun '\'' cs = 0 ∧ '\n' ∉ cs
  | .multiLiteral => (∀ c ∈ cs, isControl c = false) ∧ longestRun '\'' cs ≤ 2
  | .basic | .multiBasic => True

theorem suits_quotesFor (cs : List Char) : (quotesFor cs).Suits cs := by
  have free (given : cs.any isControl = false) : ∀ c ∈ cs, isControl c = false := by
    simpa using given
  cases chosen : quotesFor cs with
  | basic => trivial
  | multiBasic => trivial
  | literal =>
      simp only [quotesFor] at chosen
      split at chosen
      · cases chosen
      split at chosen
      · next fits =>
          simp only [Bool.and_eq_true, Bool.not_eq_true', decide_eq_true_eq] at fits
          exact ⟨free fits.1.1, fits.1.2, by simpa using fits.2⟩
      split at chosen
      · cases chosen
      split at chosen
      · cases chosen
      split at chosen <;> cases chosen
  | multiLiteral =>
      simp only [quotesFor] at chosen
      split at chosen
      · cases chosen
      split at chosen
      · cases chosen
      split at chosen
      · cases chosen
      split at chosen
      · next fits =>
          simp only [Bool.and_eq_true, Bool.not_eq_true', decide_eq_true_eq] at fits
          exact ⟨free fits.1, fits.2⟩
      split at chosen <;> cases chosen

theorem not_mem_of_longestRunFrom {quote : Char} {current : Nat} {cs : List Char}
    (none : longestRunFrom quote current cs = 0)
    : quote ∉ cs := by
  induction cs generalizing current with
  | nil => exact List.not_mem_nil
  | cons c rest ih =>
      unfold longestRunFrom at none
      split at none
      · have longer := le_longestRunFrom quote (current + 1) rest
        omega
      · next other =>
          have later : longestRunFrom quote 0 rest = 0 := by omega
          simp only [List.mem_cons, not_or]
          exact ⟨Ne.symm other, ih later⟩

theorem readString_basic {cs : List Char} (single : ∀ more, cs ≠ '"' :: '"' :: more)
    : readString ('"' :: cs) = readBasic _ [] cs (length_le_cons '"' cs) := by
  rw [readString]
  exact single

theorem readString_literal {cs : List Char} (single : ∀ more, cs ≠ '\'' :: '\'' :: more)
    : readString ('\'' :: cs) = readLiteral _ [] cs (length_le_cons '\'' cs) := by
  rw [readString]
  exact single

theorem skipLineBreak_of_head {cs : List Char} (solid : ∀ c ∈ cs.head?, c ≠ '\n' ∧ c ≠ '\r')
    : skipLineBreak cs = cs := by
  unfold skipLineBreak
  split
  · simp at solid
  · simp at solid
  · rfl

theorem skipLineBreak_opening {cs body : List Char}
    (solid : '\n' ∉ cs → ∀ c ∈ body.head?, c ≠ '\n' ∧ c ≠ '\r')
    : skipLineBreak (opening cs ++ body) = body := by
  unfold opening
  by_cases lines : '\n' ∈ cs
  · rw [if_pos (by simpa using lines)]
    rfl
  · rw [if_neg (by simpa using lines)]
    exact skipLineBreak_of_head (solid lines)

theorem head?_escapedFrom {cs : List Char} (inLine : '\n' ∉ cs) (rest : List Char)
    : ∀ c ∈ (escapedFrom true 0 cs ++ '"' :: rest).head?, c ≠ '\n' ∧ c ≠ '\r' := by
  intro first head
  cases cs with
  | nil =>
      cases head
      decide
  | cons c cs =>
      by_cases quote : c = '"'
      · subst quote
        cases head
        decide
      · obtain ⟨notFeed, _⟩ := not_or.mp (fun h => inLine (List.mem_cons.mpr h))
        simp only [escapedFrom, if_neg quote] at head
        rcases escaped_cases true quote with ⟨same, _, plain⟩ | ⟨_, feed, _⟩ | ⟨code, same, _⟩
        · rw [same] at head
          cases head
          refine ⟨Ne.symm notFeed, ?_⟩
          rintro rfl
          cases plain
        · exact absurd feed.symm notFeed
        · rw [same] at head
          cases head
          decide

theorem reads_basic {rest : List Char} (cs : List Char) (ends : ∀ c ∈ rest.head?, c ≠ '"')
    : Reads (readString (writeQuoted cs .basic ++ rest)) (String.ofList cs) rest := by
  have written
      : writeQuoted cs .basic ++ rest = '"' :: (escapedFrom false 0 cs ++ '"' :: rest) := by
    simp [writeQuoted]
  have single (more : List Char)
      : escapedFrom false 0 cs ++ '"' :: rest ≠ '"' :: '"' :: more := by
    intro triple
    cases cs with
    | nil =>
        cases triple
        exact ends '"' rfl rfl
    | cons c cs =>
        by_cases quote : c = '"'
        · subst quote
          cases triple
        · simp only [escapedFrom, if_neg quote, List.append_assoc] at triple
          exact head?_escaped false quote '"' (congrArg List.head? triple) rfl
  rw [written, readString_basic single]
  exact reads_readBasic cs rest [] _ _

theorem reads_literal {cs rest : List Char} (suits : Quotes.literal.Suits cs)
    (ends : ∀ c ∈ rest.head?, c ≠ '\'')
    : Reads (readString (writeQuoted cs .literal ++ rest)) (String.ofList cs) rest := by
  obtain ⟨free, none, inLine⟩ := suits
  have notQuote := not_mem_of_longestRunFrom none
  have written : writeQuoted cs .literal ++ rest = '\'' :: (cs ++ '\'' :: rest) := by
    simp [writeQuoted]
  have single (more : List Char) : cs ++ '\'' :: rest ≠ '\'' :: '\'' :: more := by
    intro triple
    cases cs with
    | nil =>
        cases triple
        exact ends '\'' rfl rfl
    | cons c cs =>
        obtain ⟨rfl, _⟩ := List.cons.inj triple
        exact notQuote (.head _)
  rw [written, readString_literal single]
  refine reads_readLiteral ?_ rest [] _ _
  intro c among
  refine ⟨fun same => notQuote (same ▸ among), ?_⟩
  exact isPlain_of_not_isControl (free c among) fun same => inLine (same ▸ among)

theorem reads_multiBasic {rest : List Char} (cs : List Char)
    (ends : ∀ c ∈ rest.head?, c ≠ '"')
    : Reads (readString (writeQuoted cs .multiBasic ++ rest)) (String.ofList cs) rest := by
  have written
      : writeQuoted cs .multiBasic ++ rest
        = '"' :: '"' :: '"'
          :: (opening cs ++ (escapedFrom true 0 cs ++ '"' :: '"' :: '"' :: rest)) := by
    simp [writeQuoted]
  rw [written]
  simp only [readString, skipLineBreak_opening fun inLine => head?_escapedFrom inLine _]
  exact reads_readMultiBasic ends cs [] _ (Nat.zero_le 2) _

theorem reads_multiLiteral {cs rest : List Char} (suits : Quotes.multiLiteral.Suits cs)
    (ends : ∀ c ∈ rest.head?, c ≠ '\'')
    : Reads (readString (writeQuoted cs .multiLiteral ++ rest)) (String.ofList cs) rest := by
  obtain ⟨free, few⟩ := suits
  have written
      : writeQuoted cs .multiLiteral ++ rest
        = '\'' :: '\'' :: '\'' :: (opening cs ++ (cs ++ '\'' :: '\'' :: '\'' :: rest)) := by
    simp [writeQuoted]
  have solid (inLine : '\n' ∉ cs)
      : ∀ c ∈ (cs ++ '\'' :: '\'' :: '\'' :: rest).head?, c ≠ '\n' ∧ c ≠ '\r' := by
    intro first head
    cases cs with
    | nil =>
        cases head
        decide
    | cons c cs =>
        cases head
        refine ⟨fun same => inLine (same ▸ .head _), ?_⟩
        rintro rfl
        cases free '\r' (.head _)
  rw [written]
  simp only [readString, skipLineBreak_opening solid]
  exact reads_readMultiLiteral ends free [] _ few _

/-- A string is read back from between quotes of a kind that suits it. -/
theorem reads_writeQuoted {quotes : Quotes} {cs rest : List Char} (suits : quotes.Suits cs)
    (ends : ∀ c ∈ rest.head?, c ≠ '"' ∧ c ≠ '\'')
    : Reads (readString (writeQuoted cs quotes ++ rest)) (String.ofList cs) rest := by
  cases quotes with
  | basic => exact reads_basic cs fun c head => (ends c head).1
  | literal => exact reads_literal suits fun c head => (ends c head).2
  | multiBasic => exact reads_multiBasic cs fun c head => (ends c head).1
  | multiLiteral => exact reads_multiLiteral suits fun c head => (ends c head).2

/-- A string is read back from its text, whatever follows but a quote. -/
theorem reads_readString (text : String) {rest : List Char}
    (ends : ∀ c ∈ rest.head?, c ≠ '"' ∧ c ≠ '\'')
    : Reads (readString ((stringText text).toList ++ rest)) text rest := by
  have read := reads_writeQuoted (suits_quotesFor text.toList) ends
  rw [String.ofList_toList] at read
  rw [stringText, String.toList_ofList]
  exact read

end RecordSmith.Toml
