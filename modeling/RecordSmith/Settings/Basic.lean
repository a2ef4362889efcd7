import RecordSmith.Decimal.Shortest
import RecordSmith.Settings.Setting
import RecordSmith.Store.Basic
import RecordSmith.Target.Basic
import RecordSmith.Text.Quoted

/-! The settings of the program, and what it takes of written settings. -/

namespace RecordSmith

/-- The settings of the program: where the schema is, where the records go, and in which
language.
-/
structure Settings where
  schema : Option String
  path : Option String
  target : Target
deriving Repr, DecidableEq

/-- The settings without any source. -/
def Settings.default : Settings :=
  ⟨none, none, Target.default⟩

-----------------------------------------------------------------------------------------
-- Errors
-----------------------------------------------------------------------------------------

/-- The groups of settings. -/
inductive SettingsGroup where
  | input
  | output
deriving Repr, DecidableEq

namespace SettingsGroup

/-- The key of the group in the root table. -/
def key : SettingsGroup → String
  | .input => "input"
  | .output => "output"

/-- The keys of the settings in the group, in order. -/
def members : SettingsGroup → List String
  | .input => ["schema"]
  | .output => ["path", "target"]

/-- The group as messages name it. -/
def phrase : SettingsGroup → String
  | .input => "struct InputConfig"
  | .output => "struct OutputConfig"

end SettingsGroup

/-- Why settings cannot be used. -/
inductive SettingsError where
  | missing (name : String)
  | unregistered (path : String)
  | unreadable (failure : Failure)
  | unparsable (origin : String)
  | notText (found : String) (key : String) (origin : Option String)
  | notSection (found : String) (group : SettingsGroup)
  | unknownTarget (name : String)
  | notTarget
deriving Repr, DecidableEq

/-- The error as messages give it. -/
def SettingsError.message : SettingsError → String
  | .missing name => "configuration file \"" ++ name ++ "\" not found"
  | .unregistered path =>
      "configuration file \"" ++ path ++ "\" is not of a registered file format"
  | .unreadable failure => failure.message
  | .unparsable origin => "invalid configuration file in " ++ origin
  | .notText found key origin =>
      "invalid type: " ++ found ++ ", expected a string for key `" ++ key ++ "`"
        ++ (match origin with
            | some name => " in " ++ name
            | none => "")
  | .notSection found group => "invalid type: " ++ found ++ ", expected " ++ group.phrase
  | .unknownTarget name => "enum Target does not have variant constructor " ++ name
  | .notTarget =>
      "value of enum Target should be represented by either string or table with exactly one key"

-----------------------------------------------------------------------------------------
-- Taking settings
-----------------------------------------------------------------------------------------

/-- A double with a point, also where it is whole. -/
def realPhrase (value : Float) : String :=
  let text := Decimal.text value
  if value.isFinite && !text.toList.contains '.' then text ++ ".0" else text

/-- A setting that is neither a table nor a list, as messages name it. -/
def Setting.phrase : Setting → String
  | .nothing => "unit value"
  | .text value => "string " ++ Text.shown value
  | .boolean value => "boolean `" ++ toString value ++ "`"
  | .integer value => "integer `" ++ toString value ++ "`"
  | .real value => "floating point `" ++ realPhrase value ++ "`"
  | .list _ _ => "sequence"
  | .table _ _ => "map"

/-- Takes a text that may be absent. Numbers and truth values are taken as they are shown. -/
def takeText (key : String) : Setting → Except SettingsError (Option String)
  | .nothing => .ok none
  | .text value => .ok (some value)
  | .boolean value => .ok (some (toString value))
  | .integer value => .ok (some (toString value))
  | .real value => .ok (some (Decimal.text value))
  | .list origin _ => .error (.notText "sequence" key origin)
  | .table origin _ => .error (.notText "map" key origin)

/-- Takes a target by its name. -/
def takeTargetName (name : String) : Except SettingsError Target :=
  match Target.ofNameAnyCase? name with
  | some target => .ok target
  | none => .error (.unknownTarget name)

/-- Takes a target: its name, or a table whose only key is its name. -/
def takeTarget : Setting → Except SettingsError Target
  | .text name => takeTargetName name
  | .table _ [(name, _)] => takeTargetName name
  | _ => .error .notTarget

/-- The settings of a group, each under its key and with the key that messages give: the
entries of a table, or the items of a list in the order of the keys.
-/
def SettingsGroup.given (group : SettingsGroup)
    : Setting → Except SettingsError (List (String × String × Setting))
  | .table _ held =>
      .ok (group.members.filterMap fun name =>
        (Entries.find? name held).map fun value => (name, group.key ++ "." ++ name, value))
  | .list _ items =>
      .ok ((group.members.zip items).zipIdx.map fun ((name, value), index) =>
        (name, group.key ++ "[" ++ toString index ++ "]", value))
  | other => .error (.notSection other.phrase group)

/-- The settings of a group of the root table; an absent group has none. -/
def SettingsGroup.find (group : SettingsGroup) (root : List (String × Setting))
    : Except SettingsError (List (String × String × Setting)) :=
  match Entries.find? group.key root with
  | none => .ok []
  | some value => group.given value

/-- Takes a text among the settings of a group. -/
def memberText (name : String) (held : List (String × String × Setting))
    : Except SettingsError (Option String) :=
  match Entries.find? name held with
  | none => .ok none
  | some (key, value) => takeText key value

/-- Takes the target among the settings of a group. -/
def memberTarget (held : List (String × String × Setting)) : Except SettingsError Target :=
  match Entries.find? "target" held with
  | none => .ok Target.default
  | some (_, value) => takeTarget value

/-- Takes the program's settings from the entries of the root table. -/
def Settings.take (root : List (String × Setting)) : Except SettingsError Settings := do
  let input ← SettingsGroup.input.find root
  let schema ← memberText "schema" input
  let output ← SettingsGroup.output.find root
  let path ← memberText "path" output
  let target ← memberTarget output
  return ⟨schema, path, target⟩

end RecordSmith
