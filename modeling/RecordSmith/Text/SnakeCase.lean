import RecordSmith.Text.DecimalDigit
import RecordSmith.Text.LowerCase

/-! Property names in snake case. Underscores are put at the end of an acronym and between
words, then the whole name is lower-cased. Letters are those of A to Z here, while digits and
lower case are those of every script.
-/

namespace RecordSmith.Text

/-- The rest of a name begins with a small letter. -/
def startsSmall : List Char → Bool
  | c :: _ => c.isLower
  | [] => false

/-- A run of capitals, last first, in front of the given rest. A small letter after the run
takes the last capital as the start of its own word, when another capital stands before it.
-/
def splitRun (rest : List Char) : List Char → List Char
  | last :: before :: earlier =>
      if startsSmall rest then (before :: earlier).reverse ++ ['_', last]
      else (last :: before :: earlier).reverse
  | short => short.reverse

/-- Underscores at the ends of acronyms. The capitals read so far and not yet written stand
last first.
-/
def splitAcronymsFrom (run : List Char) : List Char → List Char
  | [] => splitRun [] run
  | c :: rest =>
      if c.isUpper then splitAcronymsFrom (c :: run) rest
      else splitRun (c :: rest) run ++ c :: splitAcronymsFrom [] rest

/-- Puts an underscore before the last capital of each run of two or more capitals that a
small letter follows.
-/
def splitAcronyms (name : List Char) : List Char :=
  splitAcronymsFrom [] name

/-- A character that ends a word when a capital follows it. -/
def endsWord (c : Char) : Bool :=
  c.isLower || isDecimalDigit c

/-- Puts an underscore between a small letter or digit and a capital after it. -/
def splitWords : List Char → List Char
  | c :: d :: rest =>
      if endsWord c && d.isUpper then c :: '_' :: splitWords (d :: rest)
      else c :: splitWords (d :: rest)
  | short => short

/-- The snake case form of a name. -/
def snakeCase (name : String) : String :=
  String.ofList (lowerAfter [] (splitWords (splitAcronyms name.toList)))

end RecordSmith.Text
