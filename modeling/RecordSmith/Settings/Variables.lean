import RecordSmith.Decimal.Reading
import RecordSmith.Settings.Setting

/-! Settings given by environment variables. -/

namespace RecordSmith.Setting

/-- What the names of variables begin with, in lower case. -/
def variableMark : List Char :=
  "records__".toList

/-- Each two neighbouring underscores become a dot. -/
def underscoresToDots : List Char → List Char
  | '_' :: '_' :: rest => '.' :: underscoresToDots rest
  | c :: rest => c :: underscoresToDots rest
  | [] => []

/-- The key that a variable sets, if its name begins with the mark. Letter case plays no part.
-/
def variableKey? (name : String) : Option String :=
  (variableMark.isPrefixOf? (Text.lowerCase name).toList).map fun rest =>
    String.ofList (underscoresToDots rest)

/-- The setting that a variable's text stands for: a truth value or a number if it reads as
one, else the text.
-/
def ofVariable (value : String) : Setting :=
  let word := Text.lowerCase value
  if word = "true" then .boolean true
  else if word = "false" then .boolean false
  else
    match Decimal.integer? value.toList with
    | some number => .integer number
    | none =>
        match Decimal.double? value.toList with
        | some number => .real number
        | none => .text value

/-- The entries that the environment gives, in its order. -/
def ofVariables (environment : List (String × String)) : List (String × Setting) :=
  environment.filterMap fun (name, value) =>
    (variableKey? name).map (·, ofVariable value)

end RecordSmith.Setting
