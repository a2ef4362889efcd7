import RecordSmith.Text.Digit
import RecordSmith.Text.Parsed

/-! The four kinds of strings that TOML has: on one line or on several, with escapes or
without.
-/

namespace RecordSmith.Toml

open RecordSmith.Text

-----------------------------------------------------------------------------------------
-- Characters
-----------------------------------------------------------------------------------------

/-- A character that may stand in strings and comments: no control character but the tab. -/
def isPlain (c : Char) : Bool :=
  c = '\t' || (0x20 ≤ c.toNat && c.toNat ≠ 0x7F)

/-- A blank inside a line. -/
def isGap (c : Char) : Bool :=
  c = ' ' || c = '\t'

/-- Reads a number of hexadecimal digits after the ones of the given value. -/
def readHex (limit : Nat) : (count value : Nat) → (cs : List Char) → cs.length < limit
    → Option (Parsed Nat limit)
  | 0, value, cs, h => some ⟨value, cs, h⟩
  | _ + 1, _, [], _ => none
  | count + 1, value, c :: rest, h =>
      match hexValue? c with
      | none => none
      | some digit => readHex limit count (value * 16 + digit) rest (length_lt_of_cons_lt h)

/-- Reads the character of a code point with the given number of digits. -/
def readCode (limit count : Nat) (cs : List Char) (h : cs.length < limit)
    : Option (Parsed Char limit) :=
  match readHex limit count 0 cs h with
  | none => none
  | some code =>
      if code.value.isValidChar then some ⟨Char.ofNat code.value, code.rest, code.shorter⟩
      else none

/-- Reads the part of an escape that follows the backslash. -/
def readEscape (limit : Nat) (cs : List Char) (h : cs.length ≤ limit)
    : Option (Parsed Char limit) :=
  match cs, h with
  | [], _ => none
  | c :: rest, h =>
      have fits : rest.length < limit := h
      match c with
      | 'b' => some ⟨'\x08', rest, fits⟩
      | 't' => some ⟨'\t', rest, fits⟩
      | 'n' => some ⟨'\n', rest, fits⟩
      | 'f' => some ⟨'\x0c', rest, fits⟩
      | 'r' => some ⟨'\r', rest, fits⟩
      | '"' => some ⟨'"', rest, fits⟩
      | '\\' => some ⟨'\\', rest, fits⟩
      | 'u' => readCode limit 4 rest fits
      | 'U' => readCode limit 8 rest fits
      | _ => none

-----------------------------------------------------------------------------------------
-- One line
-----------------------------------------------------------------------------------------

/-- Reads a string with escapes up to its closing quote. The characters read so far stand
last first, here and below.
-/
def readBasic (limit : Nat) (done cs : List Char) (h : cs.length ≤ limit)
    : Option (Parsed String limit) :=
  match cs, h with
  | [], _ => none
  | c :: rest, h =>
      have fits : rest.length < limit := h
      if c = '"' then some ⟨String.ofList done.reverse, rest, fits⟩
      else if c = '\\' then
        match readEscape rest.length rest (Nat.le_refl _) with
        | none => none
        | some escape =>
            have := escape.shorter
            readBasic limit (escape.value :: done) escape.rest (escape.rest_le fits)
      else if isPlain c then readBasic limit (c :: done) rest (length_le_of_lt fits)
      else none
termination_by cs.length

/-- Reads a string without escapes up to its closing quote. -/
def readLiteral (limit : Nat) (done : List Char)
    : (cs : List Char) → cs.length ≤ limit → Option (Parsed String limit)
  | [], _ => none
  | c :: rest, h =>
      if c = '\'' then some ⟨String.ofList done.reverse, rest, h⟩
      else if isPlain c then readLiteral limit (c :: done) rest (length_le_of_lt h)
      else none

-----------------------------------------------------------------------------------------
-- Several lines
-----------------------------------------------------------------------------------------

/-- The text without one line break in front. -/
def skipLineBreak : List Char → List Char
  | '\n' :: rest => rest
  | '\r' :: '\n' :: rest => rest
  | rest => rest

/-- The text without the blanks and line breaks in front. -/
def skipBlankLines : List Char → List Char
  | [] => []
  | '\r' :: '\n' :: rest => skipBlankLines rest
  | c :: rest => if isGap c || c = '\n' then skipBlankLines rest else c :: rest

/-- The text after a line that ends in a backslash, blanks and line breaks skipped; the
backslash was read.
-/
def continueLine? (cs : List Char) : Option (List Char) :=
  match cs.dropWhile isGap with
  | '\n' :: rest => some (skipBlankLines rest)
  | '\r' :: '\n' :: rest => some (skipBlankLines rest)
  | _ => none

/-- The number of quotes in front. -/
def quoteCount (quote : Char) (cs : List Char) : Nat :=
  (cs.takeWhile (· = quote)).length

/-- Skipping a line break never lengthens a text. -/
theorem length_skipLineBreak (cs : List Char)
    : (skipLineBreak cs).length ≤ cs.length := by
  fun_cases skipLineBreak cs with
  | case1 => simp
  | case2 => simp; omega
  | case3 => simp

/-- Skipping blank lines never lengthens a text. -/
theorem length_skipBlankLines (cs : List Char)
    : (skipBlankLines cs).length ≤ cs.length := by
  fun_induction skipBlankLines cs <;> simp_all <;> omega

/-- A continued line leaves a shorter text. -/
theorem length_continueLine? {cs rest : List Char} (h : continueLine? cs = some rest)
    : rest.length ≤ cs.length := by
  have gaps := length_dropWhile_le isGap cs
  unfold continueLine? at h
  split at h
  · next more held =>
      cases h
      have := length_skipBlankLines more
      rw [held] at gaps
      simp at gaps
      omega
  · next more held =>
      cases h
      have := length_skipBlankLines more
      rw [held] at gaps
      simp at gaps
      omega
  · cases h

/-- What is left after the quotes that end a string: of more than three, up to two belong to
the string.
-/
def closeQuotes (limit : Nat) (quote : Char) (done : List Char) (count : Nat) (cs : List Char)
    (h : cs.length ≤ limit) (filled : 0 < cs.length)
    : Parsed String limit :=
  let inner := min (count - 3) 2
  ⟨String.ofList (done.reverse ++ List.replicate inner quote), cs.drop (inner + 3),
    by simp; omega⟩

/-- Reads a string with escapes up to its three closing quotes. -/
def readMultiBasic (limit : Nat) (done cs : List Char) (h : cs.length ≤ limit)
    : Option (Parsed String limit) :=
  match cs, h with
  | [], _ => none
  | c :: rest, h =>
      have fits : rest.length < limit := h
      if c = '"' then
        let count := quoteCount '"' (c :: rest)
        if 3 ≤ count then some (closeQuotes limit '"' done count (c :: rest) h (by simp))
        else readMultiBasic limit (c :: done) rest (length_le_of_lt fits)
      else if c = '\\' then
        match held : continueLine? rest with
        | some after =>
            have := length_continueLine? held
            readMultiBasic limit done after (by omega)
        | none =>
            match readEscape rest.length rest (Nat.le_refl _) with
            | none => none
            | some escape =>
                have := escape.shorter
                readMultiBasic limit (escape.value :: done) escape.rest (escape.rest_le fits)
      else if c = '\r' && rest.head? = some '\n' then
        readMultiBasic limit ('\n' :: done) rest.tail (by simp; omega)
      else if c = '\n' || isPlain c then
        readMultiBasic limit (c :: done) rest (length_le_of_lt fits)
      else none
termination_by cs.length
decreasing_by all_goals simp <;> omega

/-- Reads a string without escapes up to its three closing quotes. -/
def readMultiLiteral (limit : Nat) (done cs : List Char) (h : cs.length ≤ limit)
    : Option (Parsed String limit) :=
  match cs, h with
  | [], _ => none
  | c :: rest, h =>
      have fits : rest.length < limit := h
      if c = '\'' then
        let count := quoteCount '\'' (c :: rest)
        if 3 ≤ count then some (closeQuotes limit '\'' done count (c :: rest) h (by simp))
        else readMultiLiteral limit (c :: done) rest (length_le_of_lt fits)
      else if c = '\r' && rest.head? = some '\n' then
        readMultiLiteral limit ('\n' :: done) rest.tail (by simp; omega)
      else if c = '\n' || isPlain c then
        readMultiLiteral limit (c :: done) rest (length_le_of_lt fits)
      else none
termination_by cs.length
decreasing_by all_goals grind

-----------------------------------------------------------------------------------------
-- Any kind
-----------------------------------------------------------------------------------------

/-- Reads a string of any kind; a text that does not begin with a quote has none. -/
def readString (cs : List Char) : Option (Parsed String cs.length) :=
  match cs with
  | '"' :: '"' :: '"' :: rest =>
      have := length_skipLineBreak rest
      readMultiBasic _ [] (skipLineBreak rest) (by simp; omega)
  | '\'' :: '\'' :: '\'' :: rest =>
      have := length_skipLineBreak rest
      readMultiLiteral _ [] (skipLineBreak rest) (by simp; omega)
  | '"' :: rest => readBasic _ [] rest (length_le_cons _ rest)
  | '\'' :: rest => readLiteral _ [] rest (length_le_cons _ rest)
  | _ => none

end RecordSmith.Toml
