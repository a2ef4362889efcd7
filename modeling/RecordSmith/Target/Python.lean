import RecordSmith.Text.Lines
import RecordSmith.Text.Quoted

/-! Records in Python: named tuples, whose field names have to be identifiers that begin with
a letter and are no keywords.
-/

namespace RecordSmith.Python

/-- The words that cannot be used as identifiers. -/
def keywords : List String :=
  ["False", "None", "True", "and", "as", "assert", "async", "await", "break", "class",
    "continue", "def", "del", "elif", "else", "except", "finally", "for", "from", "global",
    "if", "import", "in", "is", "lambda", "nonlocal", "not", "or", "pass", "raise", "return",
    "try", "while", "with", "yield"]

/-- A character of an identifier; any other becomes an underscore. -/
def identifierChar (c : Char) : Char :=
  if c.isAlphanum then c else '_'

/-- The characters of an identifier, underscores in front dropped. -/
def identifierChars (name : String) : List Char :=
  (name.toList.map identifierChar).dropWhile (· = '_')

/-- Makes the characters begin with a letter. -/
def withLetter : List Char → List Char
  | [] => "field".toList
  | first :: rest =>
      if first.isDigit then "field_".toList ++ first :: rest else first :: rest

/-- A keyword is set apart by an underscore at its end. -/
def avoidKeyword (name : String) : String :=
  if keywords.contains name then name ++ "_" else name

/-- The field name of a named tuple for any name. -/
def identifier (name : String) : String :=
  avoidKeyword (String.ofList (withLetter (identifierChars name)))

/-- The line that comes before all declarations. -/
def heading : String :=
  "from collections import namedtuple"

/-- The declaration of a record. -/
def declaration (name : String) (fields : List String) : String :=
  name ++ " = namedtuple(" ++ Text.quoted name ++ ", ["
    ++ Text.join ", " (fields.map Text.quoted) ++ "])"

end RecordSmith.Python
