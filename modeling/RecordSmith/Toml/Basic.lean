/-! TOML values. -/

namespace RecordSmith

/-- A TOML value. Dates and times are kept in their usual written form. -/
inductive Toml where
  | string (value : String)
  | integer (value : Int)
  | float (value : Float)
  | boolean (value : Bool)
  | moment (text : String)
  | array (items : List Toml)
  | table (entries : List (String × Toml))

end RecordSmith
