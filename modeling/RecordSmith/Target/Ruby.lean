import RecordSmith.Text.Lines
import RecordSmith.Text.Quoted

/-! Records in Ruby: value classes with one symbol for each field. -/

namespace RecordSmith.Ruby

/-- A character that a symbol without quotes may begin with. -/
def startsSymbol (c : Char) : Bool :=
  c.isLower || c = '_'

/-- A character that a symbol without quotes may contain. -/
def continuesSymbol (c : Char) : Bool :=
  c.isAlphanum || c = '_'

/-- The name can be written as a symbol without quotes. -/
def isPlain (name : String) : Bool :=
  match name.toList with
  | [] => false
  | first :: rest => startsSymbol first && (first :: rest).all continuesSymbol

/-- The symbol for a field. -/
def symbol (field : String) : String :=
  if isPlain field then ":" ++ field else ":" ++ Text.quoted field

/-- The declaration of a record. A record without fields takes no parentheses. -/
def declaration (name : String) (fields : List String) : String :=
  match fields with
  | [] => name ++ " = Data.define"
  | fields => name ++ " = Data.define(" ++ Text.join ", " (fields.map symbol) ++ ")"

end RecordSmith.Ruby
