import RecordSmith.Entries

/-! JSON values. Objects keep their members in order. -/

namespace RecordSmith

/-- A JSON number: exact when written as an integer of at most 64 bits, a double otherwise. -/
inductive Json.Number where
  | integer (value : Int)
  | real (value : Float)

/-- A JSON value. -/
inductive Json where
  | null
  | bool (value : Bool)
  | number (value : Json.Number)
  | string (value : String)
  | array (items : List Json)
  | object (members : List (String × Json))

namespace Json

instance : Inhabited Json :=
  ⟨.null⟩

/-- The six kinds of JSON values. -/
inductive Kind where
  | null
  | boolean
  | number
  | string
  | array
  | object
deriving Repr, DecidableEq

/-- The kind as messages name it. -/
def Kind.phrase : Kind → String
  | .null => "null"
  | .boolean => "a boolean"
  | .number => "a number"
  | .string => "a string"
  | .array => "an array"
  | .object => "an object"

/-- The kind of a value. -/
def kind : Json → Kind
  | .null => .null
  | .bool _ => .boolean
  | .number _ => .number
  | .string _ => .string
  | .array _ => .array
  | .object _ => .object

/-- The member of an object with the given key; other values have no members. -/
def get? (key : String) : Json → Option Json
  | .object members => Entries.find? key members
  | _ => none

end Json

end RecordSmith
