import RecordSmith.Proofs.Decimal.Numerals
import RecordSmith.Proofs.Settings.Environment
import RecordSmith.Proofs.Store.Visibility

/-! The variable of a path decides the path, whatever the sources below say. A value that reads as
a truth value or as a number gives the text that this value is shown as, and any other value gives
itself.
-/

namespace RecordSmith

-----------------------------------------------------------------------------------------
-- What a value stands for
-----------------------------------------------------------------------------------------

/-- The value is a truth value, in any letter case. -/
def IsTruth (value : String) : Prop :=
  Text.lowerCase value = "true" ∨ Text.lowerCase value = "false"

/-- The text that a variable's value gives. Truth values come before integers, and integers before
other numbers.
-/
inductive GivesText (value : String) : String → Prop where
  | truth (isTruth : IsTruth value) : GivesText value (Text.lowerCase value)
  | integer {number : Int} (noTruth : ¬ IsTruth value)
    (isInteger : Decimal.IsInteger value.toList number)
    : GivesText value (toString number)
  | real {number : Float} (noTruth : ¬ IsTruth value)
    (noInteger : ∀ integer, ¬ Decimal.IsInteger value.toList integer)
    (isReal : Decimal.IsReal value.toList number)
    : GivesText value (Decimal.text number)
  | verbatim (noTruth : ¬ IsTruth value)
    (noInteger : ∀ integer, ¬ Decimal.IsInteger value.toList integer)
    (noReal : ∀ number, ¬ Decimal.IsReal value.toList number)
    : GivesText value value

namespace GivesText

variable {value text other : String}

theorem exists_text (value : String) : ∃ text, GivesText value text := by
  by_cases isTruth : IsTruth value
  · exact ⟨_, .truth isTruth⟩
  by_cases isInteger : ∃ integer, Decimal.IsInteger value.toList integer
  · obtain ⟨integer, isInteger⟩ := isInteger
    exact ⟨_, .integer isTruth isInteger⟩
  have noInteger := not_exists.mp isInteger
  by_cases isReal : ∃ number, Decimal.IsReal value.toList number
  · obtain ⟨number, isReal⟩ := isReal
    exact ⟨_, .real isTruth noInteger isReal⟩
  · exact ⟨_, .verbatim isTruth noInteger (not_exists.mp isReal)⟩

theorem integer?_eq_none (noInteger : ∀ integer, ¬ Decimal.IsInteger value.toList integer)
    : Decimal.integer? value.toList = none :=
  Option.eq_none_iff_forall_ne_some.mpr fun integer read =>
    noInteger integer (Decimal.integer?_eq_some_iff.mp read)

theorem double?_eq_none (noReal : ∀ number, ¬ Decimal.IsReal value.toList number)
    : Decimal.double? value.toList = none :=
  Option.eq_none_iff_forall_ne_some.mpr fun number read =>
    noReal number (Decimal.double?_eq_some_iff.mp read)

/-- What the variable stands for is taken as the text. -/
theorem takeText_ofVariable (gives : GivesText value text) (key : String)
    : takeText key (Setting.ofVariable value) = .ok (some text) := by
  cases gives with
  | truth isTruth =>
      rcases isTruth with word | word
      · simp only [Setting.ofVariable, word, if_true, takeText]
        rfl
      · simp only [Setting.ofVariable, word, if_true, takeText]
        rfl
  | integer noTruth isInteger =>
      obtain ⟨notTrue, notFalse⟩ := not_or.mp noTruth
      simp only [Setting.ofVariable, if_neg notTrue, if_neg notFalse,
        Decimal.integer?_eq_some_iff.mpr isInteger, takeText]
  | real noTruth noInteger isReal =>
      obtain ⟨notTrue, notFalse⟩ := not_or.mp noTruth
      simp only [Setting.ofVariable, if_neg notTrue, if_neg notFalse,
        integer?_eq_none noInteger, Decimal.double?_eq_some_iff.mpr isReal, takeText]
  | verbatim noTruth noInteger noReal =>
      obtain ⟨notTrue, notFalse⟩ := not_or.mp noTruth
      simp only [Setting.ofVariable, if_neg notTrue, if_neg notFalse,
        integer?_eq_none noInteger, double?_eq_none noReal, takeText]

theorem unique (gives : GivesText value text) (also : GivesText value other)
    : other = text := by
  have same := (also.takeText_ofVariable "").symm.trans (gives.takeText_ofVariable "")
  cases same
  rfl

end GivesText

-----------------------------------------------------------------------------------------
-- Changes along a path
-----------------------------------------------------------------------------------------

/-- Any setting but a table takes the place of what was there. -/
theorem Setting.assign_of_ne_table {value : Setting}
    (noTable : ∀ origin incoming, value ≠ .table origin incoming) (key : String)
    (held : List (String × Setting))
    : Setting.assign key value held = Entries.put (Text.lowerCase key) value held := by
  rw [Setting.assign]
  exact noTable

/-- An entry that is set depends on what its name found before, and on nothing else. -/
theorem Setting.exists_assign (key : String) (value : Setting)
    : ∃ change : Option Setting → Setting,
        ∀ held,
          Setting.assign key value held
          = Entries.put (Text.lowerCase key)
              (change (Entries.find? (Text.lowerCase key) held)) held := by
  by_cases table : ∃ origin incoming, value = .table origin incoming
  · obtain ⟨origin, incoming, rfl⟩ := table
    refine ⟨fun found => Setting.merge incoming (found.getD (.table none [])), ?_⟩
    intro held
    rw [Setting.assign]
  · refine ⟨fun _ => value, ?_⟩
    apply Setting.assign_of_ne_table
    intro origin incoming same
    exact table ⟨origin, incoming, same⟩

namespace KeyPath

/-- What a path sets depends on what its first key found before, and on nothing else. -/
theorem exists_set (path : KeyPath) (value : Setting)
    : ∃ change : Option Setting → Setting,
        ∀ held,
          path.set value held
          = Entries.put (Text.lowerCase path.root)
              (change (Entries.find? (Text.lowerCase path.root) held)) held := by
  cases steps : path.steps with
  | nil =>
      obtain ⟨change, changed⟩ := Setting.exists_assign path.root value
      refine ⟨change, ?_⟩
      intro held
      simp only [set, steps, setSteps, changed held]
  | cons step rest =>
      refine ⟨fun found => setSteps.follow value (step :: rest) (found.getD .nothing), ?_⟩
      intro held
      simp only [set, steps, setSteps]

/-- What steps into a table set depends on what their first key found before, and on nothing
else.
-/
theorem exists_follow (value : Setting) (child : String) (rest : List KeyStep)
    : ∃ change : Option Setting → Setting,
        ∀ target,
          setSteps.follow value (.child child :: rest) target
          = target.withEntries
              (Entries.put (Text.lowerCase child)
                (change (Entries.find? (Text.lowerCase child) target.entries))
                target.entries) := by
  cases rest with
  | nil =>
      obtain ⟨change, changed⟩ := Setting.exists_assign child value
      refine ⟨change, ?_⟩
      intro target
      simp only [setSteps.follow, changed target.entries]
  | cons step rest =>
      refine ⟨fun found => setSteps.follow value (step :: rest) (found.getD .nothing), ?_⟩
      intro target
      simp only [setSteps.follow]

end KeyPath

-----------------------------------------------------------------------------------------
-- Root tables
-----------------------------------------------------------------------------------------

/-- The key of the path among the settings of the group. -/
def SettingsGroup.pathKey : SettingsGroup → String
  | .input => "schema"
  | .output => "path"

/-- The path among the settings of the group. -/
def Settings.pathIn (settings : Settings) : SettingsGroup → Option String
  | .input => settings.schema
  | .output => settings.path

/-- The root table above has the value as the path of the group, and all else as below. -/
structure SettingsGroup.Overrides (group : SettingsGroup) (value : Setting)
    (below above : List (String × Setting))
    : Prop where
  others : ∀ name, name ≠ group.key → Entries.find? name above = Entries.find? name below
  own
    : ∃ origin held,
        Entries.find? group.key above = some (.table origin held)
        ∧ Entries.find? group.pathKey held = some value
        ∧ ∀ name,
            name ≠ group.pathKey
            → Entries.find? name held = Entries.find? name (group.entriesIn below)

/-- The variable leads into another group, or to another setting of the group. -/
def SettingsGroup.Spares (group : SettingsGroup) (name : String) : Prop :=
  ∀ key,
    Setting.variableKey? name = some key
    → Text.lowerCase (KeyPath.read key).root = group.key
    → ∃ child rest,
        (KeyPath.read key).steps = .child child :: rest
        ∧ Text.lowerCase child ≠ group.pathKey

namespace SettingsGroup

variable {group : SettingsGroup} {value : Setting} {root below above : List (String × Setting)}

theorem pathKey_mem (group : SettingsGroup) : group.pathKey ∈ group.members := by
  cases group <;> decide

theorem entriesIn_congr
    (same : Entries.find? group.key above = Entries.find? group.key below)
    : group.entriesIn above = group.entriesIn below := by
  unfold entriesIn
  rw [same]

/-- The key of the path's variable overrides the path. -/
theorem overrides_set (group : SettingsGroup)
    (noTable : ∀ origin incoming, value ≠ .table origin incoming) (root : List (String × Setting))
    : group.Overrides value root
        ((KeyPath.read (group.key ++ "." ++ group.pathKey)).set value root) := by
  let target := (Entries.find? group.key root).getD .nothing
  have result
      : (KeyPath.read (group.key ++ "." ++ group.pathKey)).set value root
        = Entries.put group.key
            (target.withEntries (Entries.put group.pathKey value (group.entriesIn root)))
            root := by
    rw [read_key group.pathKey_mem, ← group.entries_getD root]
    simp only [KeyPath.set, KeyPath.setSteps, KeyPath.setSteps.follow, lowerCase_key,
      Setting.assign_of_ne_table noTable, lowerCase_member group.pathKey_mem, target]
  obtain ⟨origin, table⟩ :=
    target.exists_withEntries (Entries.put group.pathKey value (group.entriesIn root))
  rw [result, table]
  constructor
  · intro name other
    rw [Entries.find?_put, if_neg other]
  · refine ⟨origin, _, by rw [Entries.find?_put, if_pos rfl], ?_, ?_⟩
    · rw [Entries.find?_put, if_pos rfl]
    · intro name other
      rw [Entries.find?_put, if_neg other]

namespace Overrides

/-- What is set under another root key leaves the override as it is. -/
theorem set_of_ne {path : KeyPath} (overrides : group.Overrides value below above)
    (apart : Text.lowerCase path.root ≠ group.key) (incoming : Setting)
    : group.Overrides value (path.set incoming below) (path.set incoming above) where
  others := by
    intro name other
    by_cases own : name = Text.lowerCase path.root
    · subst own
      obtain ⟨change, changed⟩ := path.exists_set incoming
      rw [changed, changed, Entries.find?_put, Entries.find?_put, overrides.others _ other]
    · rw [KeyPath.find?_set_of_ne own, KeyPath.find?_set_of_ne own, overrides.others name other]
  own := by
    rw [entriesIn_congr (KeyPath.find?_set_of_ne (Ne.symm apart) incoming below),
      KeyPath.find?_set_of_ne (Ne.symm apart)]
    exact overrides.own

/-- What is set under another key of the group leaves the override as it is. -/
theorem set_of_child {path : KeyPath} {child : String} {rest : List KeyStep}
    (overrides : group.Overrides value below above)
    (into : Text.lowerCase path.root = group.key) (steps : path.steps = .child child :: rest)
    (apart : Text.lowerCase child ≠ group.pathKey) (incoming : Setting)
    : group.Overrides value (path.set incoming below) (path.set incoming above) := by
  obtain ⟨change, changed⟩ := KeyPath.exists_follow incoming child rest
  let changeIn (held : List (String × Setting)) : List (String × Setting) :=
    Entries.put (Text.lowerCase child) (change (Entries.find? (Text.lowerCase child) held)) held
  have result (root : List (String × Setting))
      : path.set incoming root
        = Entries.put group.key
            (((Entries.find? group.key root).getD .nothing).withEntries
              (changeIn (group.entriesIn root)))
            root := by
    rw [← group.entries_getD root]
    simp only [KeyPath.set, steps, KeyPath.setSteps, into, changed, changeIn]
  obtain ⟨origin, held, found, there, same⟩ := overrides.own
  constructor
  · intro name other
    rw [result, result, Entries.find?_put, if_neg other, Entries.find?_put, if_neg other,
      overrides.others name other]
  · obtain ⟨otherOrigin, table⟩ :=
      ((Entries.find? group.key below).getD .nothing).exists_withEntries
        (changeIn (group.entriesIn below))
    have changedBelow
        : Entries.find? group.key (path.set incoming below)
          = some (.table otherOrigin (changeIn (group.entriesIn below))) := by
      rw [result, table, Entries.find?_put, if_pos rfl]
    refine ⟨origin, changeIn held, ?_, ?_, ?_⟩
    · rw [result, Entries.find?_put, if_pos rfl, entriesIn_of_find? found, found]
      rfl
    · rw [Entries.find?_put, if_neg (Ne.symm apart), there]
    · intro name other
      rw [entriesIn_of_find? changedBelow, Entries.find?_put, Entries.find?_put, same _ apart,
        same name other]

/-- A variable that spares the path leaves the override as it is. -/
theorem set {name key : String} (overrides : group.Overrides value below above)
    (spares : group.Spares name) (keyed : Setting.variableKey? name = some key)
    (incoming : Setting)
    : group.Overrides value ((KeyPath.read key).set incoming below)
        ((KeyPath.read key).set incoming above) := by
  by_cases into : Text.lowerCase (KeyPath.read key).root = group.key
  · obtain ⟨child, rest, steps, apart⟩ := spares key keyed into
    exact overrides.set_of_child into steps apart incoming
  · exact overrides.set_of_ne into incoming

/-- Variables that spare the path leave the override as it is, by induction over them. -/
theorem overlay {environment : List (String × String)}
    (overrides : group.Overrides value below above)
    (spared : ∀ entry ∈ environment, group.Spares entry.1)
    : group.Overrides value (Setting.overlay below (Setting.ofVariables environment))
        (Setting.overlay above (Setting.ofVariables environment)) := by
  induction environment generalizing below above with
  | nil => exact overrides
  | cons entry rest ih =>
      obtain ⟨name, word⟩ := entry
      obtain ⟨spares, spared⟩ := List.forall_mem_cons.mp spared
      cases keyed : Setting.variableKey? name with
      | none =>
          simp only [Setting.ofVariables, List.filterMap_cons, keyed, Option.map_none]
          exact ih overrides spared
      | some key =>
          simp only [Setting.ofVariables, List.filterMap_cons, keyed, Option.map_some]
          exact ih (overrides.set spares keyed (Setting.ofVariable word)) spared

end Overrides

end SettingsGroup

-----------------------------------------------------------------------------------------
-- Settings
-----------------------------------------------------------------------------------------

theorem Settings.take_eq_ok_iff {root : List (String × Setting)} {settings : Settings}
    : Settings.take root = .ok settings
      ↔ ∃ input output,
          SettingsGroup.input.find root = .ok input
          ∧ SettingsGroup.output.find root = .ok output
          ∧ memberText "schema" input = .ok settings.schema
          ∧ memberText "path" output = .ok settings.path
          ∧ memberTarget output = .ok settings.target := by
  constructor
  · intro taken
    obtain ⟨input, inputFound, taken⟩ := Store.exists_ok_of_bind taken
    obtain ⟨schema, schemaTaken, taken⟩ := Store.exists_ok_of_bind taken
    obtain ⟨output, outputFound, taken⟩ := Store.exists_ok_of_bind taken
    obtain ⟨path, pathTaken, taken⟩ := Store.exists_ok_of_bind taken
    obtain ⟨target, targetTaken, taken⟩ := Store.exists_ok_of_bind taken
    cases taken
    exact ⟨input, output, inputFound, outputFound, schemaTaken, pathTaken, targetTaken⟩
  · intro ⟨input, output, inputFound, outputFound, schemaTaken, pathTaken, targetTaken⟩
    simp only [Settings.take, inputFound, outputFound, schemaTaken, pathTaken, targetTaken, bind,
      Except.bind]
    rfl

theorem memberText_of_taken {name key : String} {held : List (String × String × Setting)}
    {value : Setting} {text? : Option String}
    (found : Entries.find? name held = some (key, value))
    (taken : takeText key value = .ok text?)
    : memberText name held = .ok text? := by
  unfold memberText
  rw [found]
  exact taken

/-- A target that was taken is still taken if the group is a table of the same entries. A list
that gives way to a table leaves no target.
-/
theorem exists_memberTarget {root : List (String × Setting)}
    {given table : List (String × String × Setting)} {target : Target}
    (found : SettingsGroup.output.find root = .ok given)
    (taken : memberTarget given = .ok target)
    (entries
      : Entries.find? "target" table
        = (Entries.find? "target" (SettingsGroup.output.entriesIn root)).map
            fun value => ("output.target", value))
    : ∃ other, memberTarget table = .ok other := by
  cases there : Entries.find? "target" (SettingsGroup.output.entriesIn root) with
  | none =>
      rw [there] at entries
      refine ⟨Target.default, ?_⟩
      unfold memberTarget
      rw [entries]
      rfl
  | some value =>
      -- Only a table has entries, so the target was taken from the same value.
      have isTable
          : ∃ origin held,
              Entries.find? SettingsGroup.output.key root = some (.table origin held) := by
        unfold SettingsGroup.entriesIn at there
        cases outer : Entries.find? SettingsGroup.output.key root with
        | none =>
            rw [outer] at there
            cases there
        | some group =>
            rw [outer] at there
            cases group with
            | table origin held => exact ⟨origin, held, rfl⟩
            | nothing | text _ | boolean _ | integer _ | real _ | list _ _ => cases there
      obtain ⟨origin, held, outer⟩ := isTable
      obtain ⟨_, result, looked⟩ := SettingsGroup.find_of_table outer
      cases found.symm.trans result
      have same : Entries.find? "target" table = Entries.find? "target" given := by
        rw [entries, looked "target" (by decide), SettingsGroup.entriesIn_of_find? outer]
        rfl
      refine ⟨target, ?_⟩
      unfold memberTarget
      rw [same]
      exact taken

/-- Where settings can be taken below an override, they can be taken above it, with the other
path.
-/
theorem SettingsGroup.Overrides.take {group : SettingsGroup} {value : Setting}
    {below above : List (String × Setting)} {settings : Settings} {text : String}
    (overrides : group.Overrides value below above)
    (taken : ∀ key, takeText key value = .ok (some text))
    (held : Settings.take below = .ok settings)
    : ∃ changed,
        Settings.take above = .ok changed
        ∧ changed.pathIn group = some text
        ∧ ∀ other, other ≠ group → changed.pathIn other = settings.pathIn other := by
  obtain ⟨input, output, inputFound, outputFound, schema, path, target⟩ :=
    Settings.take_eq_ok_iff.mp held
  obtain ⟨origin, entries, found, there, same⟩ := overrides.own
  obtain ⟨given, result, looked⟩ := SettingsGroup.find_of_table found
  have pathFound := looked group.pathKey group.pathKey_mem
  rw [there, Option.map_some] at pathFound
  have pathTaken := memberText_of_taken pathFound (taken _)
  have unchanged (other : SettingsGroup) (different : other.key ≠ group.key)
      : other.find above = other.find below := by
    unfold SettingsGroup.find
    rw [overrides.others other.key different]
  cases group with
  | input =>
      have outputAbove := (unchanged .output (by decide)).trans outputFound
      refine ⟨⟨some text, settings.path, settings.target⟩, ?_, rfl, ?_⟩
      · exact Settings.take_eq_ok_iff.mpr
          ⟨given, output, result, outputAbove, pathTaken, path, target⟩
      · intro other different
        cases other with
        | input => exact absurd rfl different
        | output => rfl
  | output =>
      have inputAbove := (unchanged .input (by decide)).trans inputFound
      have targetFound := looked "target" (by decide)
      rw [same "target" (by decide)] at targetFound
      obtain ⟨other, targetAbove⟩ := exists_memberTarget outputFound target targetFound
      refine ⟨⟨settings.schema, some text, other⟩, ?_, rfl, ?_⟩
      · exact Settings.take_eq_ok_iff.mpr
          ⟨input, given, inputAbove, result, schema, pathTaken, targetAbove⟩
      · intro other different
        cases other with
        | input => rfl
        | output => exact absurd rfl different

-----------------------------------------------------------------------------------------
-- Sources
-----------------------------------------------------------------------------------------

theorem overlayAll_append (held : List (String × Setting))
    (first second : List (Except SettingsError (List (String × Setting))))
    : overlayAll held (first ++ second)
      = (overlayAll held first).bind fun root => overlayAll root second := by
  induction first generalizing held with
  | nil => rfl
  | cons source rest ih =>
      cases source with
      | error error => rfl
      | ok entries => exact ih _

/-- The sources without the environment. -/
def fileSources (store : Store) (around : Surroundings) (explicit : Option String)
    : List (Except SettingsError (List (String × Setting))) :=
  (localNames ++ (userFile? store around).toList).map (optionalEntries store around)
    ++ explicit.toList.map (requiredEntries store around)

/-- The surroundings with another environment. -/
def Surroundings.withEnvironment (around : Surroundings)
    (environment : List (String × String))
    : Surroundings :=
  { around with environment := environment }

/-- The settings are those of the files with the environment laid over them. -/
theorem Settings.load_withEnvironment (store : Store) (around : Surroundings)
    (environment : List (String × String)) (explicit : Option String)
    : Settings.load store (around.withEnvironment environment) explicit
      = (overlayAll [] (fileSources store (around.withEnvironment environment) explicit)).bind
          fun root => Settings.take (Setting.overlay root (Setting.ofVariables environment)) := by
  have sources_eq
      : sources store (around.withEnvironment environment) explicit
        = fileSources store (around.withEnvironment environment) explicit
          ++ [.ok (Setting.ofVariables environment)] := rfl
  unfold Settings.load
  rw [sources_eq, overlayAll_append]
  cases overlayAll [] (fileSources store (around.withEnvironment environment) explicit) <;> rfl

theorem Entries.find?_insert {α : Type} {name other : String} (different : other ≠ name)
    (value : α) (before after : List (String × α))
    : Entries.find? name (before ++ (other, value) :: after)
      = Entries.find? name (before ++ after) := by
  induction before with
  | nil => exact if_neg different
  | cons entry rest ih => simp only [List.cons_append, Entries.find?, ih]

section

variable {group : SettingsGroup} {name : String}

theorem SettingsGroup.variableOf_ne (among : name ∈ group.members)
    : group.variableOf name ≠ "XDG_CONFIG_HOME" ∧ group.variableOf name ≠ "HOME" := by
  revert name
  cases group <;> decide +kernel

/-- Files do not depend on the environment. -/
theorem openFile_withEnvironment (store : Store) (around : Surroundings)
    (environment : List (String × String))
    : openFile store (around.withEnvironment environment) = openFile store around := by
  funext path
  simp only [openFile, findFile, alternatives, rootSteps, fullPath, relativePath,
    Surroundings.withEnvironment]
  rfl

/-- The variable of a setting plays no part in finding files. -/
theorem fileSources_insert (among : name ∈ group.members) (store : Store)
    (around : Surroundings) (explicit : Option String) (value : String)
    (before after : List (String × String))
    : fileSources store
        (around.withEnvironment (before ++ (group.variableOf name, value) :: after)) explicit
      = fileSources store (around.withEnvironment (before ++ after)) explicit := by
  obtain ⟨notConfig, notHome⟩ := SettingsGroup.variableOf_ne among
  have own
      : (around.withEnvironment
          (before ++ (group.variableOf name, value) :: after)).configHome?
        = (around.withEnvironment (before ++ after)).configHome? := by
    simp only [Surroundings.configHome?, Surroundings.withEnvironment,
      Entries.find?_insert notConfig, Entries.find?_insert notHome]
  have optional (environment : List (String × String))
      : optionalEntries store (around.withEnvironment environment)
        = optionalEntries store around := by
    funext path
    simp only [optionalEntries, openFile_withEnvironment]
  have required (environment : List (String × String))
      : requiredEntries store (around.withEnvironment environment)
        = requiredEntries store around := by
    funext path
    simp only [requiredEntries, openFile_withEnvironment]
  simp only [fileSources, userFile?, Surroundings.userPath?, own, optional, required]
  rfl

/-- An environment in two parts is laid over the root table part by part. -/
theorem overlay_ofVariables_append (root : List (String × Setting))
    (before after : List (String × String))
    : Setting.overlay root (Setting.ofVariables (before ++ after))
      = Setting.overlay (Setting.overlay root (Setting.ofVariables before))
          (Setting.ofVariables after) := by
  simp only [Setting.overlay, Setting.ofVariables, List.filterMap_append, List.foldl_append]

/-- The variable of a setting sets what its key leads to. -/
theorem overlay_ofVariables_cons (among : name ∈ group.members) (value : String)
    (root : List (String × Setting)) (after : List (String × String))
    : Setting.overlay root (Setting.ofVariables ((group.variableOf name, value) :: after))
      = Setting.overlay
          ((KeyPath.read (group.key ++ "." ++ name)).set (Setting.ofVariable value) root)
          (Setting.ofVariables after) := by
  simp only [Setting.overlay, Setting.ofVariables, List.filterMap_cons,
    SettingsGroup.variableKey?_variableOf among, Option.map_some, List.foldl_cons]

end

/-- Where settings can be loaded without the variable of a path, they can be loaded with it. The
path is the text that the variable's value gives, be it empty or not, unless a later variable leads
to the same path; the other path is as before.
-/
theorem Settings.path_of_variable {store : Store} {around : Surroundings}
    {explicit : Option String} {before after : List (String × String)} {without : Settings}
    (group : SettingsGroup) (value : String)
    (loads
      : Settings.load store (around.withEnvironment (before ++ after)) explicit = .ok without)
    (spared : ∀ entry ∈ after, group.Spares entry.1)
    : ∃ settings text,
        Settings.load store
          (around.withEnvironment
            (before ++ (group.variableOf group.pathKey, value) :: after))
          explicit
          = .ok settings
        ∧ settings.pathIn group = some text
        ∧ (∀ other, GivesText value other ↔ other = text)
        ∧ ∀ other, other ≠ group → settings.pathIn other = without.pathIn other := by
  obtain ⟨text, gives⟩ := GivesText.exists_text value
  have noTable (origin : Option String) (held : List (String × Setting))
      : Setting.ofVariable value ≠ .table origin held := by
    intro table
    have taken := gives.takeText_ofVariable ""
    rw [table] at taken
    cases taken
  rw [Settings.load_withEnvironment] at loads
  obtain ⟨root, files, taken⟩ := Store.exists_ok_of_bind loads
  rw [overlay_ofVariables_append] at taken
  have overridden := group.overrides_set noTable
    (Setting.overlay root (Setting.ofVariables before))
  obtain ⟨settings, result, path, others⟩ :=
    (overridden.overlay spared).take gives.takeText_ofVariable taken
  refine ⟨settings, text, ?_, path, ?_, others⟩
  · rw [Settings.load_withEnvironment, fileSources_insert group.pathKey_mem, files, ← result,
      ← overlay_ofVariables_cons group.pathKey_mem, ← overlay_ofVariables_append]
    rfl
  · intro other
    exact ⟨gives.unique, fun same => same ▸ gives⟩

/-- A file that sets everything. -/
def fullShelf : Store :=
  ⟨[(["records.toml"],
      .file (.text "input.schema='old.json'\noutput=\x7bpath='old.py', target='python'\x7d"))]⟩

def homeOnly : List (String × String) :=
  [("HOME", "/home")]

def targetOnly : List (String × String) :=
  [("RECORDS__OUTPUT__TARGET", "ruby")]

theorem spares_targetOnly (group : SettingsGroup)
    : ∀ entry ∈ targetOnly, group.Spares entry.1 := by
  have keyed : Setting.variableKey? "RECORDS__OUTPUT__TARGET" = some "output.target" := by
    decide +kernel
  have read : KeyPath.read "output.target" = ⟨"output", [.child "target"]⟩ := by
    decide +kernel
  have apart : ∀ group : SettingsGroup, Text.lowerCase "target" ≠ group.pathKey := by
    decide +kernel
  intro entry among key sets into
  cases List.mem_singleton.mp among
  cases keyed.symm.trans sets
  rw [read]
  exact ⟨"target", [], rfl, apart group⟩

/-- A value that begins like a number counts as it stands, and a number as it is shown: an integer
without its sign and leading zeros, a fraction without the zeros that end it.
-/
theorem Settings.path_of_variable_fullShelf
    : Settings.load fullShelf ⟨[], "", homeOnly ++ targetOnly⟩ none
        = .ok ⟨some "old.json", some "old.py", .ruby⟩
      ∧ (∃ settings,
          Settings.load fullShelf
              ⟨[], "", homeOnly ++ ("RECORDS__OUTPUT__PATH", "1e5.py") :: targetOnly⟩ none
            = .ok settings
          ∧ settings.path = some "1e5.py")
      ∧ (∃ settings,
          Settings.load fullShelf
              ⟨[], "", homeOnly ++ ("RECORDS__INPUT__SCHEMA", "+0042") :: targetOnly⟩ none
            = .ok settings
          ∧ settings.schema = some "42")
      ∧ ∃ settings,
          Settings.load fullShelf
              ⟨[], "", homeOnly ++ ("RECORDS__OUTPUT__PATH", "1.50") :: targetOnly⟩ none
            = .ok settings
          ∧ settings.path = some "1.5" := by
  have loads
      : Settings.load fullShelf
          (Surroundings.withEnvironment ⟨[], "", []⟩ (homeOnly ++ targetOnly)) none
        = .ok ⟨some "old.json", some "old.py", .ruby⟩ := by
    decide +kernel
  have pathVariable
      : SettingsGroup.output.variableOf SettingsGroup.output.pathKey
        = "RECORDS__OUTPUT__PATH" := by
    decide +kernel
  have schemaVariable
      : SettingsGroup.input.variableOf SettingsGroup.input.pathKey
        = "RECORDS__INPUT__SCHEMA" := by
    decide +kernel
  have verbatim : GivesText "1e5.py" "1e5.py" := by
    obtain ⟨notTrue, notFalse, noInteger, noDouble⟩
        : ReadsAsText "1e5.py" := by decide +kernel
    refine .verbatim (not_or.mpr ⟨notTrue, notFalse⟩) ?_ ?_
    · intro integer isInteger
      cases noInteger.symm.trans (Decimal.integer?_of_isInteger isInteger)
    · intro number isReal
      cases noDouble.symm.trans (Decimal.double?_of_isReal isReal)
  have whole : GivesText "+0042" (toString (42 : Int)) := by
    refine .integer (not_or.mpr (by decide +kernel)) ?_
    exact Decimal.isInteger_of_integer? (by decide +kernel)
  have fraction : GivesText "1.50" "1.5" := by
    have noInteger : Decimal.integer? "1.50".toList = none := by decide +kernel
    have read : Decimal.double? "1.50".toList = some (Decimal.nearest false 150 (-2)) := rfl
    have shown : Decimal.text (Decimal.nearest false 150 (-2)) = "1.5" := by decide +kernel
    rw [← shown]
    refine .real (not_or.mpr (by decide +kernel)) ?_ (Decimal.isReal_of_double? read)
    intro integer isInteger
    cases noInteger.symm.trans (Decimal.integer?_of_isInteger isInteger)
  obtain ⟨first, _, firstLoads, firstPath, firstGives, _⟩ :=
    Settings.path_of_variable .output "1e5.py" loads (spares_targetOnly .output)
  obtain ⟨second, _, secondLoads, secondPath, secondGives, _⟩ :=
    Settings.path_of_variable .input "+0042" loads (spares_targetOnly .input)
  obtain ⟨third, _, thirdLoads, thirdPath, thirdGives, _⟩ :=
    Settings.path_of_variable .output "1.50" loads (spares_targetOnly .output)
  rw [← (firstGives _).mp verbatim] at firstPath
  rw [← (secondGives _).mp whole] at secondPath
  rw [← (thirdGives _).mp fraction] at thirdPath
  rw [pathVariable] at firstLoads thirdLoads
  rw [schemaVariable] at secondLoads
  exact ⟨loads, ⟨first, firstLoads, firstPath⟩, ⟨second, secondLoads, secondPath⟩, third,
    thirdLoads, thirdPath⟩

/-- A path of digits loses its leading zeros. -/
theorem Settings.variable_not_verbatim
    : Settings.load ⟨[]⟩ ⟨[], "", [("RECORDS__INPUT__SCHEMA", "007")]⟩ none
      = .ok ⟨some "7", none, .ruby⟩ := by
  decide +kernel

end RecordSmith
