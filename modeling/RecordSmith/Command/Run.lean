import RecordSmith.Command.Arguments
import RecordSmith.Drift.Report
import RecordSmith.Output
import RecordSmith.Schema.Load
import RecordSmith.Settings.Sources
import RecordSmith.Settings.Writing

/-! What a command does: its exit code, what it prints, and the files it leaves. -/

namespace RecordSmith

-----------------------------------------------------------------------------------------
-- Outcomes
-----------------------------------------------------------------------------------------

/-- The result of a run. -/
structure Outcome where
  code : Nat
  stdout : String
  stderr : String
  store : Store
deriving Repr, DecidableEq

/-- Why a run fails. -/
inductive RunError where
  | settings (error : SettingsError)
  | noSchema
  | noOutput
  | schemaUnreadable (path : String) (failure : Failure)
  | schemaInvalid (path : String) (error : LoadError)
  | unwritable (path : String) (failure : Failure)
  | unreadable (path : String) (failure : Failure)
deriving Repr, DecidableEq

/-- What is told about an error, from what was attempted to what lies behind it. -/
def RunError.chain : RunError → List String
  | .settings error =>
      ["failed to load configuration", "Configuration error: " ++ error.message, error.message]
  | .noSchema => ["no schema given; pass SCHEMA or set [input] schema"]
  | .noOutput => ["no output file to check; pass --output or set [output] path"]
  | .schemaUnreadable path failure =>
      ["failed to load schema " ++ path, "IO error: " ++ failure.message, failure.message]
  | .schemaInvalid path error =>
      ["failed to load schema " ++ path, error.message] ++ error.cause?.toList
  | .unwritable path failure => ["failed to write " ++ path, failure.message]
  | .unreadable path failure => ["failed to read " ++ path, failure.message]

/-- The error as it is printed. -/
def RunError.text (error : RunError) : String :=
  "Error: " ++ Text.join ": " error.chain ++ "\n"

-----------------------------------------------------------------------------------------
-- Actions
-----------------------------------------------------------------------------------------

/-- What a run acts on: the files, and what it has printed so far. -/
structure World where
  store : Store
  stdout : String
  stderr : String
deriving Repr, DecidableEq

/-- A part of a run. It may fail, and whatever it did before it failed stays done. -/
abbrev Action (α : Type) := ExceptT RunError (StateM World) α

namespace Action

/-- The result of an action and what it leaves. -/
def perform {α : Type} (action : Action α) (world : World) : Except RunError α × World :=
  ExceptT.run action world

/-- A result that comes from looking at the files only. -/
def look {α : Type} (view : Store → Except RunError α) : Action α := do
  let world ← get
  match view world.store with
  | .error error => throw error
  | .ok value => return value

/-- Prints a text. -/
def print (text : String) : Action Unit :=
  modify fun world => { world with stdout := world.stdout ++ text }

/-- Prints a text that is no result. -/
def tell (text : String) : Action Unit :=
  modify fun world => { world with stderr := world.stderr ++ text }

/-- Writes to the file that a path names, wholly or not at all. -/
def write (path : String) (change : Store → Except Failure Store) : Action Unit := do
  let world ← get
  match change world.store with
  | .error failure => throw (.unwritable path failure)
  | .ok written => set { world with store := written }

end Action

-----------------------------------------------------------------------------------------
-- Records
-----------------------------------------------------------------------------------------

/-- A request with the settings filled in. -/
structure Task where
  schema : String
  output : Option String
  target : Target
deriving Repr, DecidableEq

/-- Fills in what a request leaves open. A schema there has to be. -/
def Request.resolve (request : Request) (settings : Settings) : Except RunError Task :=
  match request.schema.or settings.schema with
  | none => .error .noSchema
  | some schema =>
      .ok ⟨schema, request.output.or settings.path, request.target.getD settings.target⟩

/-- Loads the document that a path leads to. -/
def loadDocument (store : Store) (around : Surroundings) (path : String)
    : Except RunError Document :=
  match store.readText around.directory path with
  | .error failure => .error (.schemaUnreadable path failure)
  | .ok text =>
      match Document.ofText text with
      | .error error => .error (.schemaInvalid path error)
      | .ok document => .ok document

/-- The records of a task. -/
def Task.generate (task : Task) (around : Surroundings) (store : Store)
    : Except RunError Output :=
  match loadDocument store around task.schema with
  | .error error => .error error
  | .ok document => .ok (RecordSmith.generate document task.target)

/-- What is told when records have been written. -/
def writtenText (path : String) (output : Output) : String :=
  "✅ Wrote " ++ toString output.recordCount ++ " records to " ++ path ++ " ("
    ++ toString output.skipped.length ++ " skipped)\n"

/-- Generates records into a file, or prints them if there is none to write. -/
def runGenerate (around : Surroundings) (settings : Settings) (request : Request)
    : Action Nat := do
  let task ← Action.look fun _ => request.resolve settings
  let output ← Action.look (task.generate around)
  match task.output with
  | none =>
      Action.print output.code
      return 0
  | some path =>
      Action.write path (·.writeText around.directory path output.code)
      Action.tell (writtenText path output)
      return 0

/-- The text of a file to be checked. -/
def storedText (around : Surroundings) (path : String) (store : Store)
    : Except RunError String :=
  match store.readText around.directory path with
  | .error failure => .error (.unreadable path failure)
  | .ok text => .ok text

/-- The path of the file to be checked. -/
def Task.checked (task : Task) : Except RunError String :=
  match task.output with
  | none => .error .noOutput
  | some path => .ok path

/-- Tells how a stored file compares with generated records. -/
def tellReport (path : String) (report : Drift.Report) : Action Nat := do
  if report.inSync then
    Action.tell ("✅ " ++ path ++ " is up to date (" ++ report.generated.text ++ ")\n")
    return 0
  else
    Action.tell ("❌ " ++ path ++ " is out of date\n   stored:    " ++ report.stored.text
      ++ "\n   generated: " ++ report.generated.text ++ "\n")
    Action.print (String.join (report.changes.map (· ++ "\n")))
    return 1

/-- Checks that a file holds the records that would be generated. -/
def runCheck (around : Surroundings) (settings : Settings) (request : Request)
    : Action Nat := do
  let task ← Action.look fun _ => request.resolve settings
  let path ← Action.look fun _ => task.checked
  let output ← Action.look (task.generate around)
  let stored ← Action.look (storedText around path)
  tellReport path (Drift.report stored output.code)

-----------------------------------------------------------------------------------------
-- Settings
-----------------------------------------------------------------------------------------

/-- The settings in the form that was asked for. -/
def settingsText (settings : Settings) (toml json : Bool) : String :=
  if json then settings.toJson.pretty ++ "\n"
  else if toml then settings.toToml ++ "\n"
  else settings.summary

/-- Writes a file with the settings that hold without any source. -/
def runInit (around : Surroundings) (path : String) : Action Nat := do
  Action.write path (Settings.default.save · around.directory path)
  Action.print ("✅ Created config file: " ++ path ++ "\n")
  return 0

-----------------------------------------------------------------------------------------
-- Runs
-----------------------------------------------------------------------------------------

/-- Runs a command with the settings loaded. -/
def Command.run (command : Command) (around : Surroundings) (settings : Settings)
    : Action Nat :=
  match command with
  | .generate request => runGenerate around settings request
  | .check request => runCheck around settings request
  | .showSettings toml json => do
      Action.print (settingsText settings toml json)
      return 0
  | .initSettings path => runInit around path

/-- The settings of an invocation. -/
def Invocation.settings (invocation : Invocation) (around : Surroundings) (store : Store)
    : Except RunError Settings :=
  match Settings.load store around invocation.config with
  | .error error => .error (.settings error)
  | .ok settings => .ok settings

/-- Runs an invocation: the settings are loaded first, whatever the command. -/
def Invocation.attempt (invocation : Invocation) (around : Surroundings) : Action Nat := do
  let settings ← Action.look (invocation.settings around)
  invocation.command.run around settings

/-- The outcome of what has been performed. An error is told after all else. -/
def Outcome.of : Except RunError Nat × World → Outcome
  | (.ok code, world) => ⟨code, world.stdout, world.stderr, world.store⟩
  | (.error error, world) => ⟨1, world.stdout, world.stderr ++ error.text, world.store⟩

/-- The outcome of an invocation. -/
def Invocation.run (invocation : Invocation) (store : Store) (around : Surroundings)
    : Outcome :=
  .of ((invocation.attempt around).perform ⟨store, "", ""⟩)

/-- How the program is called. -/
def usage : String :=
  "Usage: schema-records [--config FILE] generate [SCHEMA] [-o FILE] [-t ruby|python]\n"
    ++ "       schema-records [--config FILE] check [SCHEMA] [-o FILE] [-t ruby|python]\n"
    ++ "       schema-records [--config FILE] config show [--toml] [--json]\n"
    ++ "       schema-records [--config FILE] config init [-o FILE]\n"

/-- The outcome of a command line. -/
def execute (args : List String) (store : Store) (around : Surroundings) : Outcome :=
  match Arguments.read args with
  | .invocation invocation => invocation.run store around
  | .version => ⟨0, "schema-records 0.1.0\n", "", store⟩
  | .help => ⟨0, usage, "", store⟩
  | .misuse => ⟨2, "", usage, store⟩

end RecordSmith
