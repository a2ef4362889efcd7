import RecordSmith.Decimal.Power
import RecordSmith.Entries
import RecordSmith.Json.Basic
import RecordSmith.Text.LowerCase
import RecordSmith.Toml.Basic

/-! Settings as they are written, whatever format they come from. -/

namespace RecordSmith

/-- A written setting. Lists and tables know the file they were written in, if they were. -/
inductive Setting where
  | nothing
  | text (value : String)
  | boolean (value : Bool)
  | integer (value : Int)
  | real (value : Float)
  | list (origin : Option String) (items : List Setting)
  | table (origin : Option String) (entries : List (String × Setting))

namespace Setting

mutual

/-- A TOML value as a setting. -/
def ofToml (origin : String) : Toml → Setting
  | .string value => .text value
  | .integer value => .integer value
  | .float value => .real value
  | .boolean value => .boolean value
  | .moment value => .text value
  | .array items => .list (some origin) (ofTomlItems origin items)
  | .table entries => .table (some origin) (ofTomlEntries origin entries)

/-- TOML values as settings. -/
def ofTomlItems (origin : String) : List Toml → List Setting
  | [] => []
  | item :: rest => ofToml origin item :: ofTomlItems origin rest

/-- The entries of a TOML table as settings. -/
def ofTomlEntries (origin : String) : List (String × Toml) → List (String × Setting)
  | [] => []
  | (key, value) :: rest => (key, ofToml origin value) :: ofTomlEntries origin rest

end

/-- A JSON number as a setting: an integer only within a signed word of 64 bits. -/
def ofNumber : Json.Number → Setting
  | .real value => .real value
  | .integer value =>
      if value < Decimal.twoTo 63 then .integer value else .real value.toNat.toUInt64.toFloat

mutual

/-- A JSON value as a setting. -/
def ofJson (origin : String) : Json → Setting
  | .null => .nothing
  | .bool value => .boolean value
  | .number value => ofNumber value
  | .string value => .text value
  | .array items => .list (some origin) (ofJsonItems origin items)
  | .object members => .table (some origin) (ofJsonMembers origin members)

/-- JSON values as settings. -/
def ofJsonItems (origin : String) : List Json → List Setting
  | [] => []
  | item :: rest => ofJson origin item :: ofJsonItems origin rest

/-- The members of a JSON object as settings. -/
def ofJsonMembers (origin : String) : List (String × Json) → List (String × Setting)
  | [] => []
  | (key, value) :: rest => (key, ofJson origin value) :: ofJsonMembers origin rest

end

/-- The entries of a table; other settings have none. -/
def entries : Setting → List (String × Setting)
  | .table _ held => held
  | _ => []

/-- A table with other entries; any other setting gives way to a table. -/
def withEntries (held : List (String × Setting)) : Setting → Setting
  | .table origin _ => .table origin held
  | _ => .table none held

mutual

/-- Sets an entry. A table is merged with what is there, key by key; any other setting takes
the place of what was there. Keys are kept in lower case.
-/
def assign (key : String) (value : Setting) (held : List (String × Setting))
    : List (String × Setting) :=
  match value with
  | .table _ incoming =>
      let name := Text.lowerCase key
      let target := (Entries.find? name held).getD (.table none [])
      Entries.put name (merge incoming target) held
  | other => Entries.put (Text.lowerCase key) other held

/-- Sets the given entries one after the other in a setting, which becomes a table. -/
def merge (incoming : List (String × Setting)) (target : Setting) : Setting :=
  match incoming with
  | [] => target
  | (key, value) :: rest => merge rest (target.withEntries (assign key value target.entries))

end

end Setting

end RecordSmith
