import RecordSmith.Target.Basic

/-! What the user asks for, read from the words of a command line. -/

namespace RecordSmith

-----------------------------------------------------------------------------------------
-- Requests
-----------------------------------------------------------------------------------------

/-- What records are made of and where they go; what is absent is taken from the settings. -/
structure Request where
  schema : Option String
  output : Option String
  target : Option Target
deriving Repr, DecidableEq

/-- What the program is to do. -/
inductive Command where
  | generate (request : Request)
  | check (request : Request)
  | showSettings (toml json : Bool)
  | initSettings (output : String)
deriving Repr, DecidableEq

/-- A command and the settings file that goes with it. -/
structure Invocation where
  config : Option String
  command : Command
deriving Repr, DecidableEq

/-- What the words of a command line come to. -/
inductive Arguments where
  | invocation (value : Invocation)
  | version
  | help
  | misuse
deriving Repr, DecidableEq

-----------------------------------------------------------------------------------------
-- Levels and options
-----------------------------------------------------------------------------------------

/-- How far into the commands the words lead. -/
inductive Level where
  | root
  | generate
  | check
  | config
  | show
  | init
deriving Repr, DecidableEq

/-- The level that a word leads to. -/
def Level.enter? : Level → String → Option Level
  | .root, "generate" => some .generate
  | .root, "check" => some .check
  | .root, "config" => some .config
  | .config, "show" => some .show
  | .config, "init" => some .init
  | _, _ => none

/-- The level has commands below it, and so a command that explains them. -/
def Level.hasCommands : Level → Bool
  | .root => true
  | .config => true
  | _ => false

/-- An option. -/
inductive Flag where
  | config
  | output
  | target
  | toml
  | json
  | version
  | help
deriving Repr, DecidableEq

/-- The options of a level. -/
def Level.flags : Level → List Flag
  | .root => [.config, .version, .help]
  | .generate => [.config, .output, .target, .help]
  | .check => [.config, .output, .target, .help]
  | .config => [.config, .help]
  | .show => [.config, .toml, .json, .help]
  | .init => [.config, .output, .help]

/-- The name of an option after two dashes. -/
def Flag.long : Flag → List Char
  | .config => "config".toList
  | .output => "output".toList
  | .target => "target".toList
  | .toml => "toml".toList
  | .json => "json".toList
  | .version => "version".toList
  | .help => "help".toList

/-- The letter of an option after one dash, if it has one. -/
def Flag.short? : Flag → Option Char
  | .config => some 'c'
  | .output => some 'o'
  | .target => some 't'
  | .version => some 'V'
  | .help => some 'h'
  | .toml => none
  | .json => none

/-- The option is followed by a value. -/
def Flag.takesValue : Flag → Bool
  | .config => true
  | .output => true
  | .target => true
  | _ => false

/-- A word as the options of a level see it. -/
inductive Word where
  | flag (flag : Flag) (value : Option String)
  | unknown
  | escape
  | plain
deriving Repr, DecidableEq

/-- Reads a word that begins with two dashes, these left out. -/
def Level.longWord (level : Level) (cs : List Char) : Word :=
  let name := cs.takeWhile (· ≠ '=')
  let value :=
    match cs.dropWhile (· ≠ '=') with
    | [] => none
    | _ :: rest => some (String.ofList rest)
  match level.flags.find? (·.long = name) with
  | none => .unknown
  | some flag => if value.isSome && !flag.takesValue then .unknown else .flag flag value

/-- Reads a word that begins with one dash, which is left out. An option with a value takes
the rest of the word, if there is any, as its value.
-/
def Level.shortWord (level : Level) (letter : Char) (rest : List Char) : Word :=
  match level.flags.find? (·.short? = some letter) with
  | none => .unknown
  | some flag =>
      match rest with
      | [] => .flag flag none
      | '=' :: value => .flag flag (some (String.ofList value))
      | value => .flag flag (some (String.ofList value))

/-- Reads a word. A dash alone is no option. -/
def Level.word (level : Level) (arg : String) : Word :=
  match arg.toList with
  | ['-', '-'] => .escape
  | '-' :: '-' :: rest => level.longWord rest
  | '-' :: letter :: rest => level.shortWord letter rest
  | _ => .plain

-----------------------------------------------------------------------------------------
-- Reading
-----------------------------------------------------------------------------------------

/-- What was read so far. The settings file may be given at every level, and the last level at
which it is given decides.
-/
structure Reading where
  level : Level
  above : Option String
  config : Option String
  schema : Option String
  output : Option String
  target : Option Target
  toml : Bool
  json : Bool

/-- Nothing read yet. -/
def Reading.start : Reading :=
  ⟨.root, none, none, none, none, none, false, false⟩

/-- The settings file in force. -/
def Reading.settingsFile (reading : Reading) : Option String :=
  reading.config.or reading.above

/-- Goes on at a level below. -/
def Reading.enter (reading : Reading) (level : Level) : Reading :=
  { reading with level, above := reading.settingsFile, config := none }

/-- Takes an option with its value, unless the option was given at this level before or the
value does not fit. Paths may not be empty, except for the settings file and for one to be
made.
-/
def Reading.take? (reading : Reading) (flag : Flag) (value : String) : Option Reading :=
  match flag with
  | .config =>
      if reading.config.isSome then none else some { reading with config := some value }
  | .output =>
      if reading.output.isSome || (value.isEmpty && reading.level ≠ .init) then none
      else some { reading with output := some value }
  | .target =>
      if reading.target.isSome then none
      else (Target.ofName? value).map fun target => { reading with target := some target }
  | _ => none

/-- Takes an option without a value, unless it was given before. -/
def Reading.set? (reading : Reading) (flag : Flag) : Option Reading :=
  match flag with
  | .toml => if reading.toml then none else some { reading with toml := true }
  | .json => if reading.json then none else some { reading with json := true }
  | _ => none

/-- Takes a word that is no option: the schema, at the levels that have one. -/
def Reading.plain? (reading : Reading) (value : String) : Option Reading :=
  if (reading.level = .generate || reading.level = .check) && reading.schema.isNone
      && !value.isEmpty then
    some { reading with schema := some value }
  else none

/-- The words name a command below the level, so that it can be explained. -/
def Level.names (level : Level) : List String → Bool
  | [] => true
  | arg :: rest =>
      match level.enter? arg with
      | some below => below.names rest
      | none => level.hasCommands && arg = "help" && rest.isEmpty

/-- What was read, as a whole. -/
def Reading.finish (reading : Reading) : Arguments :=
  let request : Request := ⟨reading.schema, reading.output, reading.target⟩
  let invocation (command : Command) : Arguments :=
    .invocation ⟨reading.settingsFile, command⟩
  match reading.level with
  | .generate => invocation (.generate request)
  | .check => invocation (.check request)
  | .show => invocation (.showSettings reading.toml reading.json)
  | .init => invocation (.initSettings (reading.output.getD "records.toml"))
  | .root => .misuse
  | .config => .misuse

/-- Reads words of which none is an option any more. -/
def Reading.plainWords (reading : Reading) : List String → Arguments
  | [] => reading.finish
  | arg :: rest =>
      match reading.plain? arg with
      | none => .misuse
      | some next => next.plainWords rest

/-- The word can be the value of the option before it. -/
def isValue (arg : String) : Bool :=
  arg = "-" || arg.toList.head? ≠ some '-'

/-- Reads the words of a command line. -/
def Reading.words (reading : Reading) : List String → Arguments
  | [] => reading.finish
  | arg :: rest =>
      match reading.level.enter? arg with
      | some level => (reading.enter level).words rest
      | none =>
          if reading.level.hasCommands && arg = "help" then
            if reading.level.names rest then .help else .misuse
          else
            match reading.level.word arg with
            | .unknown => .misuse
            | .escape => reading.plainWords rest
            | .plain =>
                match reading.plain? arg with
                | none => .misuse
                | some next => next.words rest
            | .flag .version _ => .version
            | .flag .help _ => .help
            | .flag flag (some value) =>
                match reading.take? flag value with
                | none => .misuse
                | some next => next.words rest
            | .flag flag none =>
                if flag.takesValue then
                  match rest with
                  | [] => .misuse
                  | value :: more =>
                      if isValue value then
                        match reading.take? flag value with
                        | none => .misuse
                        | some next => next.words more
                      else .misuse
                else
                  match reading.set? flag with
                  | none => .misuse
                  | some next => next.words rest

/-- Reads a command line. -/
def Arguments.read (args : List String) : Arguments :=
  Reading.start.words args

end RecordSmith
