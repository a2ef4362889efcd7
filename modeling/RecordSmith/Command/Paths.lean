import RecordSmith.Command.Run

/-! The paths that a run may look at. -/

namespace RecordSmith

/-- The paths of every file that may stand for a settings file of a name. -/
def settingsPaths (around : Surroundings) (name : String) : List String :=
  name :: (alternatives around name).map fun file => rootPath file.names

/-- The paths that loading the settings looks at. -/
def Invocation.settingsPaths (invocation : Invocation) (around : Surroundings) : List String :=
  (localNames ++ around.userPath?.toList ++ invocation.config.toList).flatMap
    (RecordSmith.settingsPaths around)

/-- The paths that a command looks at once the settings are loaded. -/
def Command.paths (command : Command) (settings : Settings) : List String :=
  match command with
  | .generate request | .check request =>
      (request.schema.or settings.schema).toList ++ (request.output.or settings.path).toList
  | .showSettings _ _ => []
  | .initSettings path => [path]

end RecordSmith
