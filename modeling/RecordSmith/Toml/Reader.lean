import RecordSmith.Toml.Marked
import RecordSmith.Toml.Number
import RecordSmith.Toml.Quotation
import RecordSmith.Toml.Tree

/-! Reading TOML text. A text that is no TOML has no value. -/

namespace RecordSmith.Toml

open RecordSmith.Text

-----------------------------------------------------------------------------------------
-- Between the values
-----------------------------------------------------------------------------------------

/-- The text without the blanks in front. -/
def skipGap (cs : List Char) : List Char :=
  cs.dropWhile isGap

/-- The text without a comment in front. -/
def skipComment : List Char → List Char
  | '#' :: rest => rest.dropWhile isPlain
  | rest => rest

/-- The text without blanks, line breaks and comments in front. The flag tells that a comment
is being read.
-/
def skipTrivia (comment : Bool) : List Char → List Char
  | [] => []
  | '\r' :: '\n' :: rest => skipTrivia false rest
  | c :: rest =>
      if c = '\n' then skipTrivia false rest
      else if comment then (if isPlain c then skipTrivia true rest else c :: rest)
      else if isGap c then skipTrivia false rest
      else if c = '#' then skipTrivia true rest
      else c :: rest

/-- The text after the end of a line, which may be the end of the text. Only blanks and a
comment may stand before the end.
-/
def endLine? (cs : List Char) : Option (List Char) :=
  match skipComment (skipGap cs) with
  | [] => some []
  | '\n' :: rest => some rest
  | '\r' :: '\n' :: rest => some rest
  | _ => none

/-- Skipping blanks never lengthens a text. -/
theorem length_skipGap (cs : List Char)
    : (skipGap cs).length ≤ cs.length :=
  length_dropWhile_le isGap cs

/-- Skipping blanks, line breaks and comments never lengthens a text. -/
theorem length_skipTrivia (comment : Bool) (cs : List Char)
    : (skipTrivia comment cs).length ≤ cs.length := by
  fun_induction skipTrivia comment cs <;> simp_all <;> omega

-----------------------------------------------------------------------------------------
-- Keys
-----------------------------------------------------------------------------------------

/-- A character of a key without quotes. -/
def isKeyChar (c : Char) : Bool :=
  c.isAlphanum || c = '_' || c = '-'

/-- Reads a key without dots. -/
def readSimpleKey (cs : List Char) : Option (Parsed String cs.length) :=
  match cs with
  | [] => none
  | c :: rest =>
      if c = '"' then readBasic _ [] rest (length_le_cons c rest)
      else if c = '\'' then readLiteral _ [] rest (length_le_cons c rest)
      else if isKeyChar c then
        some ⟨String.ofList ((c :: rest).takeWhile isKeyChar), rest.dropWhile isKeyChar,
          by have := length_dropWhile_le isKeyChar rest; simp; omega⟩
      else none

/-- Reads a key with dots, blanks around its parts included. -/
def readKey (cs : List Char) : Option (Parsed (List String) cs.length) :=
  have gap := length_skipGap cs
  match readSimpleKey (skipGap cs) with
  | none => none
  | some name =>
      have after : (skipGap name.rest).length < cs.length :=
        Nat.lt_of_le_of_lt (length_skipGap name.rest) (Nat.lt_of_lt_of_le name.shorter gap)
      match skipGap name.rest, after with
      | [], after => some ⟨[name.value], [], after⟩
      | c :: rest, after =>
          if c = '.' then
            have fits : rest.length < cs.length := Nat.lt_of_succ_lt after
            match readKey rest with
            | none => none
            | some names =>
                some ⟨name.value :: names.value, names.rest, Nat.lt_trans names.shorter fits⟩
          else some ⟨[name.value], c :: rest, after⟩
termination_by cs.length

/-- The most parts of a key, and the most values that may be open at once, plus one. -/
def nestingLimit : Nat :=
  80

/-- Splits a key into the path and its last part. -/
def splitKey? (names : List String) : Option (List String × String) :=
  if names.length < nestingLimit then names.getLast?.map (names.dropLast, ·) else none

-----------------------------------------------------------------------------------------
-- Values
-----------------------------------------------------------------------------------------

/-- Reads a boolean, a date, a time or a number. -/
def readScalar? : List Char → Option (Toml × List Char)
  | 't' :: 'r' :: 'u' :: 'e' :: rest => some (.boolean true, rest)
  | 'f' :: 'a' :: 'l' :: 's' :: 'e' :: rest => some (.boolean false, rest)
  | cs =>
      match readMoment? cs with
      | some (text, rest) => some (.moment text, rest)
      | none =>
          match readFloat? cs with
          | some (value, rest) => some (.float value, rest)
          | none => (readInteger? cs).map fun (value, rest) => (.integer value, rest)

mutual

/-- Reads a value. -/
def readValue (room : Nat) (cs : List Char) : Option (Parsed Toml cs.length) :=
  match cs with
  | [] => none
  | c :: rest =>
      if c = '[' then
        if room ≤ 1 then none
        else
          match readItems (room - 1) [] rest with
          | none => none
          | some items => some ⟨.array items.value, items.rest, Nat.lt_succ_of_lt items.shorter⟩
      else if c = '\x7b' then
        if room ≤ 1 then none
        else
          match skipGap rest, length_skipGap rest with
          | [], _ => none
          | d :: after, gap =>
              if d = '\x7d' then some ⟨.table [], after, Nat.lt_succ_of_lt gap⟩
              else
                match readPairs (room - 1) [] rest with
                | none => none
                | some pairs =>
                    some ⟨.table (partsToToml pairs.value), pairs.rest,
                      Nat.lt_succ_of_lt pairs.shorter⟩
      else if c = '"' || c = '\'' then
        match readString (c :: rest) with
        | none => none
        | some text => some ⟨.string text.value, text.rest, text.shorter⟩
      else (readScalar? (c :: rest)).bind (Parsed.ofRest? _)
termination_by 2 * cs.length

/-- Reads the items of an array up to its end. The items read so far stand last first. -/
def readItems (room : Nat) (done : List Toml) (cs : List Char)
    : Option (Parsed (List Toml) cs.length) :=
  match skipTrivia false cs, length_skipTrivia false cs with
  | [], _ => none
  | c :: rest, trivia =>
      have fits : rest.length < cs.length := trivia
      if c = ']' then some ⟨done.reverse, rest, fits⟩
      else
        match readValue room (c :: rest) with
        | none => none
        | some item =>
            match skipTrivia false item.rest, length_skipTrivia false item.rest with
            | [], _ => none
            | d :: more, after =>
                have : more.length < cs.length :=
                  Nat.le_trans after (Nat.le_trans (Nat.le_of_lt item.shorter) trivia)
                if d = ',' then
                  match readItems room (item.value :: done) more with
                  | none => none
                  | some items => some (items.within (length_le_of_lt this))
                else if d = ']' then some ⟨(item.value :: done).reverse, more, this⟩
                else none
termination_by 2 * cs.length + 1

/-- Reads the pairs of a table on one line up to its end. -/
def readPairs (room : Nat) (done : Parts) (cs : List Char)
    : Option (Parsed Parts cs.length) :=
  match readPair room cs with
  | none => none
  | some pair =>
      match (splitKey? pair.value.1).bind fun (path, key) =>
          addValue true key pair.value.2 path done with
      | none => none
      | some entries =>
          match skipGap pair.rest, length_skipGap pair.rest with
          | [], _ => none
          | c :: rest, gap =>
              have : rest.length < cs.length :=
                Nat.lt_of_lt_of_le gap (Nat.le_of_lt pair.shorter)
              if c = ',' then
                match readPairs room entries rest with
                | none => none
                | some pairs => some (pairs.within (length_le_of_lt this))
              else if c = '\x7d' then some ⟨entries, rest, this⟩
              else none
termination_by 2 * cs.length + 1

/-- Reads a key and its value. -/
def readPair (room : Nat) (cs : List Char)
    : Option (Parsed (List String × Toml) cs.length) :=
  match readKey cs with
  | none => none
  | some key =>
      match key.rest, key.shorter with
      | [], _ => none
      | c :: rest, shorter =>
          if c = '=' then
            have fits : (skipGap rest).length < cs.length :=
              Nat.lt_of_le_of_lt (length_skipGap rest) (Nat.lt_of_succ_lt shorter)
            match readValue room (skipGap rest) with
            | none => none
            | some value =>
                some ⟨(key.value, value.value), value.rest, Nat.lt_trans value.shorter fits⟩
          else none
termination_by 2 * cs.length

end

-----------------------------------------------------------------------------------------
-- Documents
-----------------------------------------------------------------------------------------

/-- A document under construction: its parts, and the header in force. -/
structure Draft where
  parts : Parts
  header : Option (List String × String)

/-- Reads a header after its opening brackets; as many brackets close it. -/
def readHeader? (opener : String → Parts → Option Parts) (closing : List Char)
    (draft : Draft) (cs : List Char)
    : Option (Draft × List Char) := do
  let names ← readKey cs
  let rest ← closing.isPrefixOf? names.rest
  let (path, key) ← splitKey? names.value
  let parts ← alter (opener key) path draft.parts
  let rest ← endLine? rest
  return (⟨parts, some (path, key)⟩, rest)

/-- Reads a line with a key and its value, which may go on over several lines. -/
def readEntry? (draft : Draft) (cs : List Char) : Option (Draft × List Char) := do
  let pair ← readPair nestingLimit cs
  let (path, key) ← splitKey? pair.value.1
  let parts ←
    match draft.header with
    | none => addValue true key pair.value.2 path draft.parts
    | some (above, name) => alter (addInside path key pair.value.2 name) above draft.parts
  let rest ← endLine? pair.rest
  return (⟨parts, draft.header⟩, rest)

/-- Reads one line of a document. -/
def readLine? (draft : Draft) (cs : List Char) : Option (Draft × List Char) :=
  match skipGap cs with
  | [] => some (draft, [])
  | '[' :: '[' :: rest => readHeader? openNext [']', ']'] draft rest
  | '[' :: rest => readHeader? openTable [']'] draft rest
  | c :: rest =>
      if c = '#' || c = '\n' || c = '\r' then (endLine? (c :: rest)).map (draft, ·)
      else readEntry? draft (c :: rest)

/-- Reads the lines of a document. -/
def readLines (draft : Draft) (cs : List Char) : Option Draft :=
  if cs.isEmpty then some draft
  else
    match (readLine? draft cs).bind (Parsed.ofRest? cs.length) with
    | none => none
    | some line =>
        have := line.shorter
        readLines line.value line.rest
termination_by cs.length

/-- The text without a byte order mark in front. -/
def skipByteOrderMark : List Char → List Char
  | '\ufeff' :: rest => rest
  | rest => rest

/-- Reads a document: the entries of its root table. -/
def read? (text : String) : Option (List (String × Toml)) :=
  (readLines ⟨[], none⟩ (skipByteOrderMark text.toList)).bind fun draft =>
    settleRoot? (partsToToml draft.parts)

end RecordSmith.Toml
