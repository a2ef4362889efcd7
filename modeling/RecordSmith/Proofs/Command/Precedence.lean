import Mathlib.Data.List.Forall2
import RecordSmith.Proofs.Command.Checking
import RecordSmith.Proofs.Settings.Environment

/-! What counts for a run: what the request says, else what the highest source says that says
something about the setting, else what holds without any source.
-/

namespace RecordSmith

-----------------------------------------------------------------------------------------
-- Sources
-----------------------------------------------------------------------------------------

/-- The settings file of a name is there and holds the entries. -/
def Gives (store : Store) (around : Surroundings) (path : String)
    (entries : List (String × Setting))
    : Prop :=
  ∃ format origin text,
    openFile store around path = .ok (format, origin, text)
    ∧ format.read origin text = .ok entries

/-- The settings file of a name is missing, or there with the entries. -/
inductive Supplies (store : Store) (around : Surroundings) (path : String)
    : List (String × Setting) → Prop where
  | absent (missing : findFile store around path = .error (.missing path))
    : Supplies store around path []
  | present {entries : List (String × Setting)} (given : Gives store around path entries)
    : Supplies store around path entries

section

variable {store : Store} {around : Surroundings} {path : String}
  {entries : List (String × Setting)}

theorem requiredEntries_of_gives (given : Gives store around path entries)
    : requiredEntries store around path = .ok entries := by
  obtain ⟨format, origin, text, opened, read⟩ := given
  unfold requiredEntries
  rw [opened]
  exact read

theorem optionalEntries_of_supplies (supplied : Supplies store around path entries)
    : optionalEntries store around path = .ok entries := by
  unfold optionalEntries
  cases supplied with
  | absent missing =>
      unfold openFile
      rw [missing]
      rfl
  | present given =>
      obtain ⟨format, origin, text, opened, read⟩ := given
      rw [opened]
      exact read

end

theorem map_eq_of_forall₂ {α β ε : Type} {related : α → β → Prop} {names : List α}
    {values : List β} (each : List.Forall₂ related names values) {read : α → Except ε β}
    (reads : ∀ {name value}, related name value → read name = .ok value)
    : names.map read = values.map .ok := by
  induction each with
  | nil => rfl
  | cons first _ ih => rw [List.map_cons, List.map_cons, reads first, ih]

/-- What counts for a setting: its variable, or else the highest file that says something. -/
def Setting.word? (environment : List (String × String))
    (files : List (List (String × Setting))) (group : SettingsGroup) (name : String)
    : Option String :=
  (Entries.find? (group.variableOf name) environment).or (winner? group name files)

/-- The settings are those that the words give which count. -/
theorem Settings.load_of_sources {store : Store} {around : Surroundings}
    {explicit : Option String} {found named : List (List (String × Setting))}
    (supplied : List.Forall₂ (Supplies store around)
      (localNames ++ (userFile? store around).toList) found)
    (given : List.Forall₂ (Gives store around) explicit.toList named)
    (orderly : ∀ layer ∈ found ++ named, Setting.Orderly layer)
    (plain : PlainEnvironment around.environment)
    : Settings.load store around explicit
      = Settings.chosen (Setting.word? around.environment (found ++ named)) := by
  let environment := Setting.ofVariables around.environment
  have layers
      : sources store around explicit = (found ++ named ++ [environment]).map .ok := by
    unfold sources
    rw [map_eq_of_forall₂ supplied optionalEntries_of_supplies,
      map_eq_of_forall₂ given requiredEntries_of_gives,
      List.map_append, List.map_append, List.map_singleton]
  have allOrderly : ∀ layer ∈ found ++ named ++ [environment], Setting.Orderly layer := by
    intro layer among
    rcases List.mem_append.mp among with below | top
    · exact orderly layer below
    · cases List.mem_singleton.mp top
      exact plain.orderly
  unfold Settings.load
  rw [layers]
  apply Eq.trans (Settings.take_overlayAll allOrderly)
  apply Settings.chosen_congr
  intro group name among
  rw [Setting.winner?_concat, SettingsGroup.given?_ofVariables plain among]
  rfl

-----------------------------------------------------------------------------------------
-- Requests
-----------------------------------------------------------------------------------------

/-- The request with all that it leaves open filled in. -/
def Request.filled (request : Request) (settings : Settings) : Request :=
  ⟨request.schema.or settings.schema, request.output.or settings.path,
    some (request.target.getD settings.target)⟩

theorem Request.resolve_filled (request : Request) (settings : Settings)
    : (request.filled settings).resolve Settings.default = request.resolve settings := by
  unfold resolve filled Settings.default
  simp only [Option.or_none, Option.getD_some]

theorem runGenerate_filled (around : Surroundings) (settings : Settings) (request : Request)
    : runGenerate around Settings.default (request.filled settings)
      = runGenerate around settings request := by
  unfold runGenerate
  rw [request.resolve_filled]

theorem runCheck_filled (around : Surroundings) (settings : Settings) (request : Request)
    : runCheck around Settings.default (request.filled settings)
      = runCheck around settings request := by
  unfold runCheck
  rw [request.resolve_filled]

/-- The outcome of an action that takes the settings. If they fail, this is told and all else
stays.
-/
def Outcome.withSettings (settings : Except SettingsError Settings) (store : Store)
    (action : Settings → Action Nat)
    : Outcome :=
  match settings with
  | .error error => ⟨1, "", (RunError.settings error).text, store⟩
  | .ok chosen => .of ((action chosen).perform ⟨store, "", ""⟩)

theorem Invocation.run_eq_withSettings (invocation : Invocation) (store : Store)
    (around : Surroundings)
    : invocation.run store around
      = .withSettings (Settings.load store around invocation.config) store
          (invocation.command.run around) := by
  rw [invocation.run_eq]
  unfold Invocation.settings
  cases Settings.load store around invocation.config with
  | error error =>
      simp only [Outcome.of, Outcome.withSettings, String.empty_append]
  | ok settings => rfl

theorem Invocation.run_of_load {invocation : Invocation} {store : Store}
    {around : Surroundings} {settings : Settings}
    (loaded : Settings.load store around invocation.config = .ok settings)
    : invocation.run store around
      = .of ((invocation.command.run around settings).perform ⟨store, "", ""⟩) := by
  rw [invocation.run_eq_withSettings, loaded]
  rfl

/-- A generation ends with the code 0 exactly when there is a schema, its document can be loaded,
and the file can be written if there is one.
-/
theorem runGenerate_code_eq_zero_iff {around : Surroundings} {settings : Settings}
    {request : Request} {world : World}
    : (Outcome.of ((runGenerate around settings request).perform world)).code = 0
      ↔ ∃ schema document,
          request.schema.or settings.schema = some schema
          ∧ loadDocument world.store around schema = .ok document
          ∧ ∀ path,
              request.output.or settings.path = some path
              → ∃ written,
                  world.store.writeText around.directory path
                    (generate document (request.target.getD settings.target)).code
                  = .ok written := by
  constructor
  · intro succeeded
    have generated := generated_runGenerate around settings request world
    generalize (runGenerate around settings request).perform world = result
      at generated succeeded
    cases generated with
    | failed error => cases succeeded
    | printed resolved made unset =>
        obtain ⟨asked, sent, -⟩ := Request.resolve_eq_ok resolved
        obtain ⟨document, read, -⟩ := Task.generate_eq_ok made
        refine ⟨_, document, asked, read, ?_⟩
        intro path named
        cases unset.symm.trans (sent.trans named)
    | written resolved made named wrote =>
        obtain ⟨asked, sent, target⟩ := Request.resolve_eq_ok resolved
        obtain ⟨document, read, rfl⟩ := Task.generate_eq_ok made
        refine ⟨_, document, asked, read, ?_⟩
        intro path sentTo
        cases named.symm.trans (sent.trans sentTo)
        rw [← target]
        exact ⟨_, wrote⟩
  · rintro ⟨schema, document, asked, read, writable⟩
    simp only [runGenerate, Action.perform_bind, Action.perform_look,
      Request.resolve_of_asked asked, Task.generate, read]
    cases sent : request.output.or settings.path with
    | none => rfl
    | some path =>
        obtain ⟨written, wrote⟩ := writable path sent
        simp only [Action.perform_bind, Action.perform_write, wrote]
        rfl

-----------------------------------------------------------------------------------------
-- What a run uses
-----------------------------------------------------------------------------------------

/-- The runs of a request use what it names, and these settings for what it leaves open: the
schema whose document is loaded, the target of the code, and the file that the code is written to
or compared with.
-/
structure Request.RunsWith (request : Request) (config : Option String) (store : Store)
    (around : Surroundings) (settings : Except SettingsError Settings)
    : Prop where
  makes : ∀ schema code,
    request.Makes config store around schema code
    ↔ ∃ chosen document,
        settings = .ok chosen
        ∧ request.schema.or chosen.schema = some schema
        ∧ loadDocument store around schema = .ok document
        ∧ code = (generate document (request.target.getD chosen.target)).code
  generates :
    ((generating config request).run store around).code = 0
    ↔ ∃ chosen schema code,
        settings = .ok chosen
        ∧ request.Makes config store around schema code
        ∧ (∀ path,
            request.output.or chosen.path = some path
            → ∃ written, store.writeText around.directory path code = .ok written)
        ∧ ((generating config request).run store around).Delivers store around.directory
            (request.output.or chosen.path) code
  checks :
    ((checking config request).run store around).code = 0
    ↔ ∃ chosen path schema code stored,
        settings = .ok chosen
        ∧ request.output.or chosen.path = some path
        ∧ request.Makes config store around schema code
        ∧ store.readText around.directory path = .ok stored
        ∧ Checksum.ofText stored = Checksum.ofText code

/-- The runs of a request use the settings that are loaded. -/
theorem Request.runsWith_load (request : Request) (config : Option String) (store : Store)
    (around : Surroundings)
    : request.RunsWith config store around (Settings.load store around config) where
  makes schema code := by
    constructor
    · rintro ⟨loaded, asked, read⟩
      exact ⟨_, _, loaded, asked, read, rfl⟩
    · rintro ⟨chosen, document, loaded, asked, read, rfl⟩
      exact .intro loaded asked read
  generates := by
    constructor
    · intro succeeded
      obtain ⟨later, ended⟩ := Outcome.ok_of_code_eq_zero succeeded
      obtain ⟨chosen, loaded, -⟩ := Action.ok_of_look_bind ended
      have loaded := Invocation.settings_eq_ok loaded
      rw [Invocation.run_of_load loaded] at succeeded ⊢
      have generated := generated_runGenerate around chosen request ⟨store, "", ""⟩
      obtain ⟨schema, document, asked, read, delivered⟩ := generated.delivers succeeded
      obtain ⟨_, _, askedAlso, readAlso, writable⟩ := runGenerate_code_eq_zero_iff.mp succeeded
      cases asked.symm.trans askedAlso
      cases read.symm.trans readAlso
      exact ⟨chosen, schema, _, loaded, .intro loaded asked read, writable, delivered⟩
    · rintro ⟨chosen, schema, code, loaded, ⟨loadedAlso, asked, read⟩, writable, -⟩
      cases loaded.symm.trans loadedAlso
      rw [Invocation.run_of_load loaded]
      exact runGenerate_code_eq_zero_iff.mpr ⟨schema, _, asked, read, writable⟩
  checks := by
    constructor
    · intro succeeded
      obtain ⟨path, _, _, _, determined, ⟨loaded, _, _⟩, _⟩ :=
        Invocation.makes_of_check succeeded
      obtain ⟨schema, code, stored, makes, held, same⟩ :=
        (Invocation.check_code_eq_zero_iff determined).mp succeeded
      exact ⟨_, path, schema, code, stored, loaded,
        Request.output_of_destination? determined loaded, makes, held, same⟩
    · rintro ⟨chosen, path, schema, code, stored, loaded, sent, makes, held, same⟩
      have determined := (Request.destination?_of_load loaded).trans sent
      exact (Invocation.check_code_eq_zero_iff determined).mpr
        ⟨schema, code, stored, makes, held, same⟩

-----------------------------------------------------------------------------------------
-- Precedence
-----------------------------------------------------------------------------------------

/-- Each setting is what the highest source says that says something about it, whatever the
sources say about other settings, and only the name of the target that counts can be wrong. A
run uses what its request gives, and these settings for what the request leaves open: it loads
the document of that schema, makes code for that target, and writes or checks that file.
-/
theorem Invocation.runs_by_precedence {store : Store} {around : Surroundings}
    {explicit : Option String} {found named : List (List (String × Setting))}
    (supplied : List.Forall₂ (Supplies store around)
      (localNames ++ (userFile? store around).toList) found)
    (given : List.Forall₂ (Gives store around) explicit.toList named)
    (orderly : ∀ layer ∈ found ++ named, Setting.Orderly layer)
    (plain : PlainEnvironment around.environment)
    : let settings := Settings.chosen (Setting.word? around.environment (found ++ named))
      Settings.load store around explicit = settings
      ∧ ∀ request,
          (generating explicit request).run store around
            = .withSettings settings store
                (fun chosen => runGenerate around Settings.default (request.filled chosen))
          ∧ (checking explicit request).run store around
            = .withSettings settings store
                (fun chosen => runCheck around Settings.default (request.filled chosen))
          ∧ request.RunsWith explicit store around settings := by
  have loaded := Settings.load_of_sources supplied given orderly plain
  refine ⟨loaded, ?_⟩
  intro request
  rw [Invocation.run_eq_withSettings, Invocation.run_eq_withSettings]
  simp only [runGenerate_filled, runCheck_filled]
  rw [← loaded]
  exact ⟨rfl, rfl, request.runsWith_load explicit store around⟩

/-- Sources that each set something: a target that is none, which the next source sets right, and
a path that three sources set. The schema that the first source names is there.
-/
def crowdedShelf : Store :=
  ⟨[(["records.toml"],
      .file (.text "[input]\nschema='schema.json'\n[output]\ntarget='cobol'")),
    (["config"], .directory),
    (["config", "records.toml"], .file (.text "output.target='python'")),
    (["home"], .directory),
    (["home", "schema-records"], .directory),
    (["home", "schema-records", "records.toml"], .file (.text "output.path='home.py'")),
    (["mine.toml"], .file (.text "output.path='mine.py'"))]
    ++ shelf.nodes⟩

def crowdedSurroundings : Surroundings :=
  ⟨[], "", [("XDG_CONFIG_HOME", "/home"), ("RECORDS__OUTPUT__PATH", "out.py")]⟩

/-- What a text in a format says, and nothing if it cannot be read. -/
def Format.layer (format : Format) (origin text : String) : List (String × Setting) :=
  (format.read origin text).toOption.getD []

theorem Format.read_eq_layer {format : Format} {origin text : String}
    (readable : (format.read origin text).isOk = true)
    : format.read origin text = .ok (format.layer origin text) := by
  unfold layer
  cases read : format.read origin text with
  | error error =>
      rw [read] at readable
      cases readable
  | ok entries => rfl

/-- The files that may be missing, as they are found on the shelf. -/
def crowdedLayers : List (List (String × Setting)) :=
  [Format.toml.layer "records.toml" "[input]\nschema='schema.json'\n[output]\ntarget='cobol'",
    [],
    Format.toml.layer "config/records.toml" "output.target='python'",
    Format.toml.layer "home/schema-records/records.toml" "output.path='home.py'"]

/-- The file that the user names. -/
def mineLayer : List (String × Setting) :=
  Format.toml.layer "mine.toml" "output.path='mine.py'"

theorem supplied_crowdedShelf
    : List.Forall₂ (Supplies crowdedShelf crowdedSurroundings)
        (localNames ++ (userFile? crowdedShelf crowdedSurroundings).toList)
        crowdedLayers := by
  have own
      : userFile? crowdedShelf crowdedSurroundings
        = some "/home/schema-records/records.toml" := by
    decide +kernel
  rw [own]
  refine .cons (.present ⟨.toml, _, _, ?_, Format.read_eq_layer ?_⟩) ?_
  · decide +kernel
  · decide +kernel
  refine .cons (.absent ?_) ?_
  · decide +kernel
  refine .cons (.present ⟨.toml, _, _, ?_, Format.read_eq_layer ?_⟩) ?_
  · decide +kernel
  · decide +kernel
  refine .cons (.present ⟨.toml, _, _, ?_, Format.read_eq_layer ?_⟩) .nil
  · decide +kernel
  · decide +kernel

theorem given_crowdedShelf
    : List.Forall₂ (Gives crowdedShelf crowdedSurroundings) (some "mine.toml").toList
        [mineLayer] := by
  refine .cons ⟨.toml, _, _, ?_, Format.read_eq_layer ?_⟩ .nil
  · decide +kernel
  · decide +kernel

theorem plain_crowdedSurroundings : PlainEnvironment crowdedSurroundings.environment where
  distinct := by decide
  plain := by
    intro name value among
    rcases List.mem_cons.mp among with same | among
    · cases same
      have unmarked : Setting.variableKey? "XDG_CONFIG_HOME" = none := by decide +kernel
      intro key keyed
      cases unmarked.symm.trans keyed
    · cases List.mem_singleton.mp among
      have named : "RECORDS__OUTPUT__PATH" = SettingsGroup.output.variableOf "path" := by
        decide +kernel
      have reads : ReadsAsText "out.py" := by decide +kernel
      rw [named]
      exact reads.plainVariable .output (by decide)

/-- The name that is no target is shadowed, the variable counts before the files, and a request
that leaves everything open runs with what they give: the records go to the file of the variable.
-/
theorem Invocation.runs_by_precedence_crowdedShelf
    : (∀ layer ∈ crowdedLayers ++ [mineLayer], Setting.Orderly layer)
      ∧ Settings.load crowdedShelf crowdedSurroundings (some "mine.toml")
        = .ok ⟨some "schema.json", some "out.py", .python⟩
      ∧ (generating (some "mine.toml") openRequest).run crowdedShelf crowdedSurroundings
        = .of ((runGenerate crowdedSurroundings Settings.default
            ⟨some "schema.json", some "out.py", some .python⟩).perform
              ⟨crowdedShelf, "", ""⟩)
      ∧ ((generating (some "mine.toml") openRequest).run crowdedShelf
          crowdedSurroundings).code = 0
      ∧ ∃ document,
          loadDocument crowdedShelf crowdedSurroundings "schema.json" = .ok document
          ∧ ((generating (some "mine.toml") openRequest).run crowdedShelf
              crowdedSurroundings).Delivers crowdedShelf [] (some "out.py")
              (generate document .python).code := by
  have words
      : Settings.chosen (Setting.word? crowdedSurroundings.environment
          (crowdedLayers ++ [mineLayer]))
        = .ok ⟨some "schema.json", some "out.py", .python⟩ := by
    decide +kernel
  have orderly : ∀ layer ∈ crowdedLayers ++ [mineLayer], Setting.Orderly layer := by
    decide +kernel
  obtain ⟨loaded, runs⟩ := Invocation.runs_by_precedence supplied_crowdedShelf
    given_crowdedShelf orderly plain_crowdedSurroundings
  obtain ⟨generated, -, uses⟩ := runs openRequest
  rw [words] at loaded generated uses
  have succeeded
      : ((generating (some "mine.toml") openRequest).run crowdedShelf
          crowdedSurroundings).code = 0 := by
    rw [generated]
    decide +kernel
  obtain ⟨chosen, schema, code, same, makes, -, delivered⟩ := uses.generates.mp succeeded
  cases same
  obtain ⟨_, document, same, asked, read, rfl⟩ := (uses.makes schema code).mp makes
  cases same
  cases asked
  exact ⟨orderly, loaded, generated, succeeded, document, read, delivered⟩

end RecordSmith
