/-! Strings as TOML text. The kind of quotes is chosen by what the string contains, so that
escapes are used only where no kind does without them.
-/

namespace RecordSmith.Toml

/-- A character that can only be written as an escape: a control character that is neither a
tab nor a line feed.
-/
def isControl (c : Char) : Bool :=
  (c.toNat < 0x20 || c.toNat = 0x7F) && c ≠ '\t' && c ≠ '\n'

/-- The most neighbouring characters that are the given one. The number met last is given. -/
def longestRunFrom (quote : Char) (current : Nat) : List Char → Nat
  | [] => current
  | c :: rest =>
      if c = quote then longestRunFrom quote (current + 1) rest
      else max current (longestRunFrom quote 0 rest)

/-- The most neighbouring characters that are the given one. -/
def longestRun (quote : Char) (cs : List Char) : Nat :=
  longestRunFrom quote 0 cs

/-- The kinds of quotes. -/
inductive Quotes where
  | basic
  | literal
  | multiBasic
  | multiLiteral
deriving Repr, DecidableEq

/-- The kind of quotes for a string: the first in which it needs no escapes but for tabs, and
quotes with escapes if there is none.
-/
def quotesFor (cs : List Char) : Quotes :=
  let control := cs.any isControl
  let backslash := cs.contains '\\'
  let lines := cs.contains '\n'
  let double := longestRun '"' cs
  let single := longestRun '\'' cs
  if !control && !backslash && double = 0 && !lines then .basic
  else if !control && single = 0 && !lines then .literal
  else if !control && !backslash && double ≤ 2 then .multiBasic
  else if !control && single ≤ 2 then .multiLiteral
  else if lines then .multiBasic
  else .basic

/-- The escape of a character by its code point, which is below 256. -/
def codeEscape (c : Char) : List Char :=
  let digit (value : Nat) : Char := (Nat.digitChar value).toUpper
  ['\\', 'u', '0', '0', digit (c.toNat / 16), digit (c.toNat % 16)]

/-- A character other than a double quote between double quotes. Line feeds stay where a
string may have several lines.
-/
def escaped (multi : Bool) (c : Char) : List Char :=
  if c = '\x08' then ['\\', 'b']
  else if c = '\t' then ['\\', 't']
  else if c = '\n' then (if multi then ['\n'] else ['\\', 'n'])
  else if c = '\x0c' then ['\\', 'f']
  else if c = '\r' then ['\\', 'r']
  else if c = '\\' then ['\\', '\\']
  else if isControl c then codeEscape c
  else [c]

/-- The inside of a string with escapes. In a string with several lines every third of
neighbouring double quotes is escaped, else every one; the number met last is given.
-/
def escapedFrom (multi : Bool) (quotes : Nat) : List Char → List Char
  | [] => []
  | c :: rest =>
      if c = '"' then
        if quotes + 1 > (if multi then 2 else 0) then '\\' :: '"' :: escapedFrom multi 0 rest
        else '"' :: escapedFrom multi (quotes + 1) rest
      else escaped multi c ++ escapedFrom multi 0 rest

/-- The line break after three opening quotes, for a string with several lines. -/
def opening (cs : List Char) : List Char :=
  if cs.contains '\n' then ['\n'] else []

/-- A string between quotes of a kind. -/
def writeQuoted (cs : List Char) : Quotes → List Char
  | .basic => '"' :: escapedFrom false 0 cs ++ ['"']
  | .literal => '\'' :: cs ++ ['\'']
  | .multiBasic =>
      ['"', '"', '"'] ++ opening cs ++ escapedFrom true 0 cs ++ ['"', '"', '"']
  | .multiLiteral => ['\'', '\'', '\''] ++ opening cs ++ cs ++ ['\'', '\'', '\'']

/-- A string as TOML text. -/
def stringText (text : String) : String :=
  String.ofList (writeQuoted text.toList (quotesFor text.toList))

end RecordSmith.Toml
