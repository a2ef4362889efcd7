import RecordSmith.Proofs.Settings.Environment
import RecordSmith.Proofs.Store.Visibility
import RecordSmith.Proofs.Text.Blocks
import RecordSmith.Proofs.Toml.Documents
import RecordSmith.Settings.Writing

/-! Settings that are saved to a file are loaded from it again, whatever their strings hold. -/

namespace RecordSmith

-----------------------------------------------------------------------------------------
-- The text of settings
-----------------------------------------------------------------------------------------

namespace SettingsGroup

theorem nodup_members (group : SettingsGroup) : group.members.Nodup := by
  cases group <;> decide

theorem isBare_key (group : SettingsGroup) : Toml.IsBare group.key := by
  cases group <;> exact ⟨by decide, by decide⟩

theorem isBare_member {group : SettingsGroup} {key : String} (among : key ∈ group.members)
    : Toml.IsBare key := by
  cases group with
  | input =>
      cases List.mem_singleton.mp among
      exact ⟨by decide, by decide⟩
  | output =>
      rcases List.mem_pair.mp among with rfl | rfl
      · exact ⟨by decide, by decide⟩
      · exact ⟨by decide, by decide⟩

theorem read_groupKey (group : SettingsGroup)
    : KeyPath.read group.key = ⟨group.key, []⟩ := by
  cases group <;> decide +kernel

end SettingsGroup

namespace Settings

/-- The strings of a group under their keys. What is not set has no key. -/
def stringsOf (settings : Settings) : SettingsGroup → List (String × String)
  | .input => settings.schema.toList.map ("schema", ·)
  | .output => settings.path.toList.map ("path", ·) ++ [("target", settings.target.name)]

/-- The settings as tables of strings. -/
def tables (settings : Settings) : List (String × List (String × String)) :=
  [SettingsGroup.input, .output].map fun group => (group.key, settings.stringsOf group)

theorem toList_line (key : String) (value? : Option String)
    : (line key value?).toList
      = (value?.toList.map (key, ·)).flatMap fun entry => Toml.lineText entry.1 entry.2 := by
  cases value? with
  | none => rfl
  | some value => simp [line, Toml.lineText]

theorem toToml_eq (settings : Settings)
    : settings.toToml = String.ofList (Toml.documentText settings.tables) := by
  apply String.toList_inj.mp
  simp [toToml, tables, stringsOf, SettingsGroup.key, Toml.documentText, Toml.tableText,
    toList_line]

theorem names_stringsOf (settings : Settings) (group : SettingsGroup)
    : (Entries.names (settings.stringsOf group)).Sublist group.members := by
  obtain ⟨schema, path, target⟩ := settings
  cases group with
  | input => cases schema <;> simp [stringsOf, Entries.names, SettingsGroup.members]
  | output => cases path <;> simp [stringsOf, Entries.names, SettingsGroup.members]

theorem read?_toToml (settings : Settings)
    : Toml.read? settings.toToml = some (Toml.stringTables settings.tables) := by
  rw [toToml_eq]
  apply Toml.read?_documentText
  · intro table among
    obtain ⟨group, _, rfl⟩ := List.mem_map.mp among
    have known := settings.names_stringsOf group
    exact ⟨group.isBare_key, fun key held => SettingsGroup.isBare_member (known.subset held),
      known.nodup group.nodup_members⟩
  · simp [tables, Entries.names, SettingsGroup.key]

-----------------------------------------------------------------------------------------
-- The layer of saved settings
-----------------------------------------------------------------------------------------

/-- The saved settings as a layer. -/
def layer (settings : Settings) (origin : String) : List (String × Setting) :=
  settings.tables.map fun table =>
    (table.1, .table (some origin) (table.2.map fun entry => (entry.1, .text entry.2)))

theorem ofTomlEntries_strings (origin : String) (entries : List (String × String))
    : Setting.ofTomlEntries origin (entries.map fun entry => (entry.1, .string entry.2))
      = entries.map fun entry => (entry.1, .text entry.2) := by
  induction entries with
  | nil => simp [Setting.ofTomlEntries]
  | cons entry rest ih => simp [Setting.ofTomlEntries, Setting.ofToml, ih]

theorem ofTomlEntries_stringTables (origin : String)
    (tables : List (String × List (String × String)))
    : Setting.ofTomlEntries origin (Toml.stringTables tables)
      = tables.map fun table =>
          (table.1, .table (some origin) (table.2.map fun entry => (entry.1, .text entry.2))) := by
  induction tables with
  | nil => simp [Toml.stringTables, Setting.ofTomlEntries]
  | cons head rest ih =>
      simp only [Toml.stringTables, List.map_cons, Setting.ofTomlEntries, Setting.ofToml,
        ofTomlEntries_strings] at ih ⊢
      rw [ih]

theorem read_toToml (settings : Settings) (origin : String)
    : Format.toml.read origin settings.toToml = .ok (settings.layer origin) := by
  simp only [Format.read, read?_toToml, ofTomlEntries_stringTables]
  rfl

section

variable (settings : Settings) (origin : String)

theorem orderly_layer : Setting.Orderly (settings.layer origin) := by
  intro entry among group own
  obtain ⟨table, member, rfl⟩ := List.mem_map.mp among
  obtain ⟨other, _, rfl⟩ := List.mem_map.mp member
  simp only [SettingsGroup.read_groupKey]
  refine ⟨some origin, _, rfl, ?_⟩
  intro inner held _
  obtain ⟨⟨key, text⟩, _, rfl⟩ := List.mem_map.mp held
  exact ⟨text, rfl⟩

/-- The table of a group speaks of its own settings only. -/
theorem says?_table (group other : SettingsGroup) (name : String)
    (held : List (String × Setting))
    : Setting.says? group name (other.key, .table (some origin) held)
      = if other = group then held.reverse.findSome? (Setting.names? name) else none := by
  have keys : other.key = group.key ↔ other = group := by
    cases other <;> cases group <;> decide
  simp only [Setting.says?, SettingsGroup.read_groupKey, SettingsGroup.lowerCase_key, keys,
    Setting.tells?, Setting.entries]

/-- Strings under distinct keys of a group say what their keys find. -/
theorem findSome?_names? {group : SettingsGroup} {strings : List (String × String)}
    (known : ∀ key ∈ Entries.names strings, key ∈ group.members)
    (distinct : (Entries.names strings).Nodup) (name : String)
    : (strings.map fun entry => (entry.1, Setting.text entry.2)).reverse.findSome?
        (Setting.names? name)
      = Entries.find? name strings := by
  induction strings with
  | nil => rfl
  | cons entry rest ih =>
      obtain ⟨key, text⟩ := entry
      obtain ⟨first, known⟩ := List.forall_mem_cons.mp known
      obtain ⟨fresh, distinct⟩ := List.nodup_cons.mp distinct
      rw [List.map_cons, findSome?_reverse_cons, ih known distinct, Entries.find?]
      simp only [Setting.names?, SettingsGroup.lowerCase_member first, Setting.text?]
      split
      · next same => rw [Entries.find?_of_not_mem (same ▸ fresh), Option.none_or]
      · exact Option.or_none

/-- The layer says about a setting what the strings of its group have. -/
theorem given?_layer (group : SettingsGroup) (name : String)
    : Setting.given? group name (settings.layer origin)
      = Entries.find? name (settings.stringsOf group) := by
  have known := settings.names_stringsOf group
  rw [← findSome?_names? (fun key held => known.subset held) (known.nodup group.nodup_members)]
  have layered
      : settings.layer origin
        = [SettingsGroup.input, .output].map fun group =>
            (group.key, .table (some origin)
              ((settings.stringsOf group).map fun entry => (entry.1, .text entry.2))) :=
    rfl
  rw [layered]
  cases group with
  | input => simp [Setting.given?, says?_table]
  | output =>
      simp only [Setting.given?, List.map_cons, List.map_nil, findSome?_reverse_cons, says?_table]
      simp

/-- The saved settings say what they are. -/
theorem chosen_layer
    : Settings.chosen (fun group name => Setting.given? group name (settings.layer origin))
      = .ok settings := by
  obtain ⟨schema, path, target⟩ := settings
  have known : takeTargetName target.name = .ok target := by cases target <;> decide +kernel
  simp only [given?_layer, stringsOf, chosen]
  cases schema <;> cases path <;>
    simp [Entries.find?, Target.chosen, known, Except.map]

end

end Settings

-----------------------------------------------------------------------------------------
-- Paths from the root
-----------------------------------------------------------------------------------------

/-- The working directory is where its names lead to from the root. -/
structure Surroundings.Rooted (around : Surroundings) (store : Store) : Prop where
  single : ∀ name ∈ around.directory, '/' ∉ name.toList
  walked : store.walk [] around.directory = .ok around.directory

namespace Store

/-- No part of a text holds the character at which it was cut, by induction over the text. -/
theorem not_mem_of_mem_splitOn {c : Char} {cs part : List Char} (among : part ∈ cs.splitOn c)
    : c ∉ part := by
  induction cs generalizing part with
  | nil =>
      cases List.mem_singleton.mp among
      exact List.not_mem_nil
  | cons d rest ih =>
      rw [List.splitOn_cons_eq_if_modifyHead] at among
      cases parts : rest.splitOn c with
      | nil => exact absurd parts (List.splitOn_ne_nil c rest)
      | cons first more =>
          rw [parts] at among ih
          split at among
          · rcases List.mem_cons.mp among with rfl | later
            · exact List.not_mem_nil
            · exact ih later
          · next other =>
              rcases List.mem_cons.mp among with rfl | later
              · simp only [List.mem_cons, not_or]
                exact ⟨fun same => other (by simp [same]), ih (.head _)⟩
              · exact ih (.tail _ later)

theorem slash_not_mem_namesOf {path name : String} (among : name ∈ namesOf path)
    : '/' ∉ name.toList := by
  obtain ⟨part, cut, rfl⟩ := List.mem_map.mp among
  rw [String.toList_ofList]
  exact not_mem_of_mem_splitOn cut

/-- Names that lead nowhere else may be left out, by induction over the names. -/
theorem walk_filter {store : Store} {start last : Location} {names : List String}
    (walked : store.walk start names = .ok last)
    : store.walk start (names.filter fun name => name ≠ "" && name ≠ ".") = .ok last := by
  induction names generalizing start with
  | nil => exact walked
  | cons name rest ih =>
      unfold walk at walked
      split at walked
      · cases walked
      · cases walked
      · next directory =>
          split at walked
          · next fits =>
              by_cases idle : name = "" ∨ name = "."
              · have stays : enter start name = start := if_pos (by simpa using idle)
                rw [List.filter_cons_of_neg (by simpa [or_iff_not_imp_left] using idle)]
                exact ih (stays ▸ walked)
              · rw [List.filter_cons_of_pos (by simpa using idle), walk, directory]
                simp only [fits, if_true]
                exact ih walked
          · cases walked

theorem namesOf_rootPath {names : List String} (filled : names ≠ [])
    (single : ∀ name ∈ names, '/' ∉ name.toList)
    : namesOf (rootPath names) = "" :: names := by
  have joined : rootPath names = Text.join "/" ("" :: names) := by
    rw [Text.join_cons filled]
    simp [rootPath]
  rw [joined]
  exact Text.map_splitOn_join rfl (List.cons_ne_nil _ _)
    (List.forall_mem_cons.mpr ⟨by simp, single⟩)

/-- What a path leads to is also found from the root. -/
theorem locate_rootPath {store : Store} {around : Surroundings} {path : String}
    {location : Location} (rooted : around.Rooted store) (filled : steps path ≠ [])
    (faultless : pathFault? (rootPath (rootSteps around path)) = none)
    (located : store.locate around.directory path = .ok location)
    : store.locate [] (rootPath (rootSteps around path)) = .ok location := by
  have single : ∀ name ∈ rootSteps around path, '/' ∉ name.toList := by
    intro name among
    rcases List.mem_append.mp among with above | below
    · unfold startOf at above
      split at above
      · cases above
      · exact rooted.single name above
    · exact slash_not_mem_namesOf (List.mem_filter.mp below).1
  have started
      : store.walk [] (startOf around.directory path) = .ok (startOf around.directory path) := by
    unfold startOf
    split
    · rfl
    · exact rooted.walked
  have walked
      : store.walk (startOf around.directory path) (namesOf path) = .ok location := by
    unfold locate at located
    split at located
    · cases located
    · exact located
  have root (other : String) : startOf [] other = [] := ite_self _
  have first (names : List String) : store.walk [] ("" :: names) = store.walk [] names := rfl
  unfold locate
  rw [faultless, root, namesOf_rootPath (by simp [rootSteps, filled]) single, first]
  simp only [rootSteps, walk_append, started]
  exact walk_filter walked

theorem look_of_locate {store : Store} {base location : Location} {path : String} {node : Node}
    (located : store.locate base path = .ok location)
    (held : store.node? location = some node)
    : store.look base path = .ok node := by
  simp only [look, located, bind, Except.bind, held]

end Store

-----------------------------------------------------------------------------------------
-- Saving and loading
-----------------------------------------------------------------------------------------

section

variable {settings : Settings} {store saved : Store} {around : Surroundings} {path : String}

/-- The text of saved settings is found by the name of their file. -/
theorem openFile_of_save (wrote : settings.save store around.directory path = .ok saved)
    (rooted : around.Rooted store)
    (ending : endingOf ((steps path).getLast?.getD "") = Format.toml.ending)
    (faultless : Store.pathFault? (rootPath (rootSteps around path)) = none)
    : ∃ origin, openFile saved around path = .ok (.toml, origin, settings.toToml) := by
  obtain ⟨location, found, stored⟩ := Store.exists_ok_of_bind wrote
  cases stored
  obtain ⟨names, parent, last, writable, rfl⟩ := Store.exists_writable found
  let saved := store.insert (parent ++ [last]) (.file (.text settings.toToml))
  have placed : parent ++ [last] ≠ [] := by simp
  have written := (store.rewrites_insert placed settings.toToml).written
  have located : saved.locate around.directory path = .ok (parent ++ [last]) :=
    writable.locate_insert _
  have rootedSaved : around.Rooted saved :=
    ⟨rooted.single, Store.walk_insert placed writable.free rooted.walked⟩
  have filled : steps path ≠ [] := by
    have member : last ∈ steps path := by
      simp [steps, writable.names_eq, writable.named]
    exact List.ne_nil_of_mem member
  have fromRoot := Store.locate_rootPath rootedSaved filled faultless located
  have isFile : saved.isFile around.directory path = true := by
    simp only [Store.isFile, Store.look_of_locate located written]
  have read : saved.readText [] (rootPath (rootSteps around path)) = .ok settings.toToml := by
    simp only [Store.readText, Store.look_of_locate fromRoot written, bind, Except.bind]
  have file : findFile saved around path = .ok ⟨rootSteps around path, .toml⟩ := by
    simp only [findFile, isFile, ending, if_true]
    rfl
  refine ⟨relativePath around (rootSteps around path), ?_⟩
  change openFile saved around path = _
  simp only [openFile, file, read, bind, Except.bind]

/-- Layers that are all the same or empty say what the one says. -/
theorem winner?_of_repeated {layers : List (List (String × Setting))}
    {only : List (String × Setting)} (among : only ∈ layers)
    (repeated : ∀ layer ∈ layers, layer = [] ∨ layer = only) (group : SettingsGroup)
    (name : String)
    : Setting.winner? group name layers = Setting.given? group name only := by
  unfold Setting.winner?
  cases word : Setting.given? group name only with
  | none =>
      rw [List.findSome?_eq_none_iff]
      intro layer member
      rcases repeated layer (List.mem_reverse.mp member) with rfl | rfl
      · rfl
      · exact word
  | some text =>
      cases found : layers.reverse.findSome? (Setting.given? group name) with
      | none =>
          have silent := List.findSome?_eq_none_iff.mp found only (List.mem_reverse.mpr among)
          cases word.symm.trans silent
      | some other =>
          obtain ⟨layer, member, said⟩ := List.exists_of_findSome?_eq_some found
          rcases repeated layer (List.mem_reverse.mp member) with rfl | rfl
          · cases said
          · exact said.symm.trans word

/-- Saved settings are loaded again: from their file as the only source, and with other sources
as long as these are empty or the same file.
-/
theorem Settings.load_of_save (wrote : settings.save store around.directory path = .ok saved)
    (rooted : around.Rooted store)
    (ending : endingOf ((steps path).getLast?.getD "") = Format.toml.ending)
    (faultless : Store.pathFault? (rootPath (rootSteps around path)) = none)
    : (overlayAll [] [requiredEntries saved around path]).bind Settings.take = .ok settings
      ∧ ∀ explicit,
          requiredEntries saved around path ∈ sources saved around explicit
          → (∀ source ∈ sources saved around explicit,
              source = .ok [] ∨ source = requiredEntries saved around path)
          → Settings.load saved around explicit = .ok settings := by
  obtain ⟨origin, opened⟩ := openFile_of_save wrote rooted ending faultless
  have required : requiredEntries saved around path = .ok (settings.layer origin) := by
    simp only [requiredEntries, opened, bind, Except.bind, Settings.read_toToml]
  have loads {layers : List (List (String × Setting))} (among : settings.layer origin ∈ layers)
      (repeated : ∀ layer ∈ layers, layer = [] ∨ layer = settings.layer origin)
      : (overlayAll [] (layers.map .ok)).bind Settings.take = .ok settings := by
    have orderly : ∀ layer ∈ layers, Setting.Orderly layer := by
      intro layer member
      rcases repeated layer member with rfl | rfl
      · exact nofun
      · exact settings.orderly_layer origin
    rw [Settings.take_overlayAll orderly, ← settings.chosen_layer origin]
    simp only [winner?_of_repeated among repeated]
  rw [required]
  refine ⟨loads (List.mem_singleton.mpr rfl) (by simp), ?_⟩
  intro explicit among each
  let layers := (sources saved around explicit).map fun source => source.toOption.getD []
  have whole : sources saved around explicit = layers.map .ok := by
    rw [List.map_map]
    apply (List.map_id _).symm.trans
    apply List.map_congr_left
    intro source member
    rcases each source member with rfl | rfl <;> rfl
  unfold Settings.load
  rw [whole]
  apply loads (List.mem_map.mpr ⟨_, among, rfl⟩)
  intro layer member
  obtain ⟨source, given, rfl⟩ := List.mem_map.mp member
  rcases each source given with rfl | rfl
  · exact .inl rfl
  · exact .inr rfl

end

/-- Strings with quotes of both kinds, more than three in a row, line breaks, a backslash and
characters that need escapes.
-/
def thornySettings : Settings :=
  ⟨some "\n\"\"\"\"\r\n\'\'\'\\ \x7f\t", some "\'\"\"ü/\"", .python⟩

/-- An empty working directory. -/
def workshop : Store :=
  ⟨[(["work"], .directory)]⟩

def inWorkshop : Surroundings :=
  ⟨["work"], "work", []⟩

/-- The working directory with the saved settings in it. -/
def filledWorkshop : Store :=
  workshop.insert ["work", "saved.toml"] (.file (.text thornySettings.toToml))

theorem optionalEntries_filledWorkshop {name : String} (among : name ∈ localNames)
    : optionalEntries filledWorkshop inWorkshop name = .ok [] := by
  have missing
      : ∀ name ∈ localNames,
          openFile filledWorkshop inWorkshop name = .error (.missing name) := by
    decide +kernel
  simp only [optionalEntries, missing name among]

/-- The settings are loaded again from the only file there is. -/
theorem Settings.load_of_save_thorny
    : thornySettings.save workshop inWorkshop.directory "./saved.toml" = .ok filledWorkshop
      ∧ Settings.load filledWorkshop inWorkshop (some "./saved.toml") = .ok thornySettings := by
  have wrote
      : thornySettings.save workshop inWorkshop.directory "./saved.toml"
        = .ok filledWorkshop := rfl
  have rooted : inWorkshop.Rooted workshop := ⟨by decide, by decide +kernel⟩
  have ending : endingOf ((steps "./saved.toml").getLast?.getD "") = Format.toml.ending := by
    decide +kernel
  have faultless
      : Store.pathFault? (rootPath (rootSteps inWorkshop "./saved.toml")) = none := by
    decide +kernel
  obtain ⟨_, loads⟩ := Settings.load_of_save wrote rooted ending faultless
  refine ⟨wrote, loads (some "./saved.toml") ?_ ?_⟩
  · simp [sources]
  · intro source among
    rcases List.mem_append.mp among with inFile | set
    · rcases List.mem_append.mp inFile with found | named
      · obtain ⟨name, member, rfl⟩ := List.mem_map.mp found
        exact .inl (optionalEntries_filledWorkshop member)
      · exact .inr (List.mem_singleton.mp named)
    · exact .inl (List.mem_singleton.mp set)

end RecordSmith
