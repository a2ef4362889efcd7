import RecordSmith.Json.Reader
import RecordSmith.Settings.Basic
import RecordSmith.Settings.KeyPath
import RecordSmith.Settings.Variables
import RecordSmith.Text.Lines
import RecordSmith.Toml.Reader

/-! Where settings come from: files at fixed places, a file named by the user, and variables,
each laid over the ones before.
-/

namespace RecordSmith

/-- Where the program runs: its directory and what messages call it, and the environment
variables.
-/
structure Surroundings where
  directory : Location
  label : String
  environment : List (String × String)
deriving Repr, DecidableEq

-----------------------------------------------------------------------------------------
-- Formats
-----------------------------------------------------------------------------------------

/-- The formats of settings files. -/
inductive Format where
  | toml
  | json
deriving Repr, DecidableEq

/-- The formats in the order in which they are tried. Files in YAML, INI, RON and JSON5 are left
out: none is tried, and none is read if its name is given.
-/
def Format.all : List Format :=
  [.toml, .json]

/-- What the names of files of a format end in. -/
def Format.ending : Format → String
  | .toml => "toml"
  | .json => "json"

/-- The entries that a text in a format gives. A JSON text has to be an object. -/
def Format.read (format : Format) (origin text : String)
    : Except SettingsError (List (String × Setting)) :=
  match format with
  | .toml =>
      match Toml.read? text with
      | some entries => .ok (Setting.ofTomlEntries origin entries)
      | none => .error (.unparsable origin)
  | .json =>
      match Json.read text with
      | .ok (.object members) => .ok (Setting.ofJsonMembers origin members)
      | _ => .error (.unparsable origin)

-----------------------------------------------------------------------------------------
-- Names of files
-----------------------------------------------------------------------------------------

/-- The part of a file name after its last dot, unless the dot comes first. -/
def endingOf (name : String) : String :=
  match name.toList.reverse.span (· ≠ '.') with
  | (_, []) => ""
  | (_, ['.']) => ""
  | (ending, _) => String.ofList ending.reverse

/-- The names on a path that matter: those that lead somewhere else. -/
def steps (path : String) : List String :=
  (Store.namesOf path).filter fun name => name ≠ "" && name ≠ "."

/-- A path from the root, as a text. -/
def rootPath (names : List String) : String :=
  "/" ++ Text.join "/" names

/-- The names from the root that a path stands for, parent steps included. -/
def rootSteps (around : Surroundings) (path : String) : List String :=
  Store.startOf around.directory path ++ steps path

/-- How to get from one directory to a place, both given from the root. -/
def relativeNames : List String → List String → List String
  | base :: bases, name :: names =>
      if base = name then relativeNames bases names
      else (base :: bases).map (fun _ => "..") ++ name :: names
  | bases, names => bases.map (fun _ => "..") ++ names

/-- The path from the working directory to a place. -/
def relativePath (around : Surroundings) (names : List String) : String :=
  Text.join "/" (relativeNames around.directory names)

/-- The path with the working directory in front, unless it starts at the root. -/
def fullPath (around : Surroundings) (path : String) : String :=
  if path.toList.head? = some '/' then path else around.label ++ "/" ++ path

-----------------------------------------------------------------------------------------
-- Files
-----------------------------------------------------------------------------------------

/-- A settings file that was found: the names that lead to it from the root, and its format.
-/
structure SettingsFile where
  names : List String
  format : Format
deriving Repr, DecidableEq

/-- The files that stand for a name when there is none of exactly this name: the name with the
ending of a format.
-/
def alternatives (around : Surroundings) (path : String) : List SettingsFile :=
  match (rootSteps around path).getLast? with
  | none => []
  | some last =>
      if last = ".." then []
      else
        Format.all.map fun format =>
          ⟨(rootSteps around path).dropLast ++ [last ++ "." ++ format.ending], format⟩

/-- Finds the settings file of a name. -/
def findFile (store : Store) (around : Surroundings) (path : String)
    : Except SettingsError SettingsFile :=
  if store.isFile around.directory path then
    match Format.all.find? (·.ending = endingOf ((steps path).getLast?.getD "")) with
    | some format => .ok ⟨rootSteps around path, format⟩
    | none => .error (.unregistered (fullPath around path))
  else
    match (alternatives around path).find? fun file =>
        store.isFile [] (rootPath file.names) with
    | some file => .ok file
    | none => .error (.missing path)

/-- The text of the settings file of a name, with its format and where it is. -/
def openFile (store : Store) (around : Surroundings) (path : String)
    : Except SettingsError (Format × String × String) := do
  let file ← findFile store around path
  match store.readText [] (rootPath file.names) with
  | .ok text => .ok (file.format, relativePath around file.names, text)
  | .error failure => .error (.unreadable failure)

/-- The entries of a file that has to be there. -/
def requiredEntries (store : Store) (around : Surroundings) (path : String)
    : Except SettingsError (List (String × Setting)) := do
  let (format, origin, text) ← openFile store around path
  format.read origin text

/-- The entries of a file that may be missing or unreadable, but not malformed. -/
def optionalEntries (store : Store) (around : Surroundings) (path : String)
    : Except SettingsError (List (String × Setting)) :=
  match openFile store around path with
  | .error _ => .ok []
  | .ok (format, origin, text) => format.read origin text

-----------------------------------------------------------------------------------------
-- Sources
-----------------------------------------------------------------------------------------

/-- The names of the settings files that are looked for in the working directory. -/
def localNames : List String :=
  ["records.toml", ".records.toml", "config/records.toml"]

/-- The directory for the user's own configuration: the one that the environment names by a
path from the root, and otherwise one in the user's home.
-/
def Surroundings.configHome? (around : Surroundings) : Option String :=
  let named := Entries.find? "XDG_CONFIG_HOME" around.environment
  let home := Entries.find? "HOME" around.environment
  (named.filter fun path => path.toList.head? = some '/').or
    ((home.filter (· ≠ "")).map (· ++ "/.config"))

/-- The path of the user's own settings file. -/
def Surroundings.userPath? (around : Surroundings) : Option String :=
  around.configHome?.map (· ++ "/schema-records/records.toml")

/-- The user's own settings file, if it is there. -/
def userFile? (store : Store) (around : Surroundings) : Option String :=
  around.userPath?.filter (store.holds around.directory ·)

/-- The entries of every source, the ones that count least first. -/
def sources (store : Store) (around : Surroundings) (explicit : Option String)
    : List (Except SettingsError (List (String × Setting))) :=
  (localNames ++ (userFile? store around).toList).map (optionalEntries store around)
    ++ explicit.toList.map (requiredEntries store around)
    ++ [.ok (Setting.ofVariables around.environment)]

/-- Lays sources over each other in order; the first that fails decides. -/
def overlayAll (held : List (String × Setting))
    : List (Except SettingsError (List (String × Setting)))
    → Except SettingsError (List (String × Setting))
  | [] => .ok held
  | .error error :: _ => .error error
  | .ok entries :: rest => overlayAll (Setting.overlay held entries) rest

/-- Loads the program's settings. -/
def Settings.load (store : Store) (around : Surroundings) (explicit : Option String)
    : Except SettingsError Settings := do
  let root ← overlayAll [] (sources store around explicit)
  Settings.take root

end RecordSmith
