import RecordSmith.Text.Printable

/-! Texts between double quotes. -/

namespace RecordSmith.Text

/-- A backslash goes before each backslash and each double quote. -/
def escapeQuotes : List Char → List Char
  | [] => []
  | c :: rest =>
      if c = '\\' || c = '"' then '\\' :: c :: escapeQuotes rest
      else c :: escapeQuotes rest

/-- The characters with each occurrence of one of them replaced. -/
def replaceChar (old : Char) (new cs : List Char) : List Char :=
  cs.flatMap fun c => if c = old then new else [c]

/-- Escaping is to replace the backslashes first and the quotes then, so that the backslashes put
before quotes are left alone.
-/
theorem escapeQuotes_eq_replaceChar (cs : List Char)
    : escapeQuotes cs
      = replaceChar '"' ['\\', '"'] (replaceChar '\\' ['\\', '\\'] cs) := by
  induction cs with
  | nil => rfl
  | cons c rest ih =>
      unfold replaceChar at ih ⊢
      rw [escapeQuotes, List.flatMap_cons, List.flatMap_append, ← ih]
      by_cases backslash : c = '\\'
      · simp [backslash]
      · by_cases quote : c = '"'
        · simp [quote]
        · simp [backslash, quote]

/-- The text as a literal of generated code. -/
def quoted (text : String) : String :=
  String.ofList ('"' :: escapeQuotes text.toList ++ ['"'])

/-- A character as shown to a reader: a short escape where there is one, the code point in
hexadecimal where the character has no visible form of its own.
-/
def shownChar (c : Char) : List Char :=
  if c = '\x00' then ['\\', '0']
  else if c = '\t' then ['\\', 't']
  else if c = '\r' then ['\\', 'r']
  else if c = '\n' then ['\\', 'n']
  else if c = '\\' || c = '"' then ['\\', c]
  else if isPrintable c then [c]
  else '\\' :: 'u' :: '\x7b' :: Nat.toDigits 16 c.toNat ++ ['\x7d']

/-- The text between quotes, readable on one line. -/
def shown (text : String) : String :=
  String.ofList ('"' :: text.toList.flatMap shownChar ++ ['"'])

end RecordSmith.Text
