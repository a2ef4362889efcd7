import RecordSmith.Decimal.Shortest
import RecordSmith.Json.Basic

/-! JSON values as text, on one line or indented. -/

namespace RecordSmith.Json

/-- A character inside a string: quotes, backslashes and control characters are escaped. -/
def stringChar (c : Char) : List Char :=
  if c = '"' || c = '\\' then ['\\', c]
  else if c = '\x08' then ['\\', 'b']
  else if c = '\t' then ['\\', 't']
  else if c = '\n' then ['\\', 'n']
  else if c = '\x0c' then ['\\', 'f']
  else if c = '\r' then ['\\', 'r']
  else if c.toNat < 0x20 then
    ['\\', 'u', '0', '0', Nat.digitChar (c.toNat / 16), Nat.digitChar (c.toNat % 16)]
  else [c]

/-- A string between quotes. -/
def stringText (text : String) : String :=
  String.ofList ('"' :: text.toList.flatMap stringChar ++ ['"'])

/-- A number. A double without a decimal text, such as an infinity, is written as null. -/
def Number.text : Number → String
  | .integer value => toString value
  | .real value => if value.isFinite then Decimal.text value else "null"

mutual

/-- The value on one line, without blanks. -/
def compact : Json → String
  | .null => "null"
  | .bool true => "true"
  | .bool false => "false"
  | .number value => value.text
  | .string value => stringText value
  | .array items => "[" ++ compactItems items ++ "]"
  | .object members => "\x7b" ++ compactMembers members ++ "\x7d"

/-- Items with commas between them. -/
def compactItems : List Json → String
  | [] => ""
  | [item] => compact item
  | item :: rest => compact item ++ "," ++ compactItems rest

/-- Members with commas between them. -/
def compactMembers : List (String × Json) → String
  | [] => ""
  | [(key, value)] => stringText key ++ ":" ++ compact value
  | (key, value) :: rest =>
      stringText key ++ ":" ++ compact value ++ "," ++ compactMembers rest

end

/-- A line break and two blanks for each level. -/
def lineBreak (level : Nat) : String :=
  "\n" ++ String.ofList (List.replicate (2 * level) ' ')

mutual

/-- The value at the given level, each item and member on a line of its own. -/
def prettyAt (level : Nat) : Json → String
  | .array [] => "[]"
  | .array items => "[" ++ prettyItems (level + 1) items ++ lineBreak level ++ "]"
  | .object [] => "\x7b\x7d"
  | .object members =>
      "\x7b" ++ prettyMembers (level + 1) members ++ lineBreak level ++ "\x7d"
  | .null => "null"
  | .bool true => "true"
  | .bool false => "false"
  | .number value => value.text
  | .string value => stringText value

/-- Items on lines of their own. -/
def prettyItems (level : Nat) : List Json → String
  | [] => ""
  | [item] => lineBreak level ++ prettyAt level item
  | item :: rest => lineBreak level ++ prettyAt level item ++ "," ++ prettyItems level rest

/-- Members on lines of their own. -/
def prettyMembers (level : Nat) : List (String × Json) → String
  | [] => ""
  | [(key, value)] => lineBreak level ++ stringText key ++ ": " ++ prettyAt level value
  | (key, value) :: rest =>
      lineBreak level ++ stringText key ++ ": " ++ prettyAt level value ++ ","
        ++ prettyMembers level rest

end

/-- The value as indented text. -/
def pretty (value : Json) : String :=
  prettyAt 0 value

end RecordSmith.Json
