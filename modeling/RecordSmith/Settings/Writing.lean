import RecordSmith.Json.Writer
import RecordSmith.Settings.Basic
import RecordSmith.Toml.Writer

/-! The program's settings as text. -/

namespace RecordSmith.Settings

/-- A line that sets a key, if there is a value. -/
def line (key : String) : Option String → String
  | none => ""
  | some value => key ++ " = " ++ Toml.stringText value ++ "\n"

/-- The settings as a TOML document. -/
def toToml (settings : Settings) : String :=
  "[input]\n" ++ line "schema" settings.schema ++ "\n[output]\n" ++ line "path" settings.path
    ++ line "target" (some settings.target.name)

/-- A text or nothing as JSON. -/
def optionalJson : Option String → Json
  | some value => .string value
  | none => .null

/-- The settings as a JSON value. -/
def toJson (settings : Settings) : Json :=
  .object
    [("input", .object [("schema", optionalJson settings.schema)]),
      ("output", .object [("path", optionalJson settings.path),
        ("target", .string settings.target.name)])]

/-- A text or nothing, as shown to a reader. -/
def optionalShown : Option String → String
  | some value => "Some(" ++ Text.shown value ++ ")"
  | none => "None"

/-- The settings as shown to a reader. -/
def summary (settings : Settings) : String :=
  "📋 Schema Records Configuration\n\nInput:\n  Schema: " ++ optionalShown settings.schema
    ++ "\n\nOutput:\n  Path: " ++ optionalShown settings.path ++ "\n  Target: "
    ++ settings.target.name ++ "\n"

/-- Writes the settings to a file. -/
def save (settings : Settings) (store : Store) (base : Location) (path : String)
    : Except Failure Store :=
  store.writeText base path settings.toToml

end RecordSmith.Settings
