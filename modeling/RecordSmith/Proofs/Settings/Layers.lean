import RecordSmith.Settings.Sources

/-! Settings are layered key by key. What a layer says about a setting counts unless a higher
layer says something about it, whatever either of them says about other settings.
-/

namespace RecordSmith

-----------------------------------------------------------------------------------------
-- What a layer says
-----------------------------------------------------------------------------------------

namespace Setting

/-- The setting is a text. -/
def IsText (value : Setting) : Prop :=
  ∃ text, value = .text text

/-- The text of a setting; other settings have none. -/
def text? : Setting → Option String
  | .text value => some value
  | _ => none

/-- What an entry of a group says about the setting of a name. Letter case plays no part. -/
def names? (name : String) : String × Setting → Option String
  | (key, value) => if Text.lowerCase key = name then value.text? else none

/-- What a value says about a setting of a group that steps lead from to the value: the last word
of a table, or the text under the name.
-/
def tells? (name : String) (value : Setting) : List KeyStep → Option String
  | [] => value.entries.reverse.findSome? (names? name)
  | [.child child] => names? name (child, value)
  | _ => none

/-- What an entry of the root table says about a setting, if its key leads into the group. -/
def says? (group : SettingsGroup) (name : String) : String × Setting → Option String
  | (key, value) =>
      if Text.lowerCase (KeyPath.read key).root = group.key then
        tells? name value (KeyPath.read key).steps
      else none

theorem says?_of_own {group : SettingsGroup} {key : String}
    (own : Text.lowerCase (KeyPath.read key).root = group.key) (name : String) (value : Setting)
    : says? group name (key, value) = tells? name value (KeyPath.read key).steps := by
  simp only [says?, if_pos own]

theorem says?_of_other {group : SettingsGroup} {key : String}
    (other : Text.lowerCase (KeyPath.read key).root ≠ group.key) (name : String)
    (value : Setting)
    : says? group name (key, value) = none := by
  simp only [says?, if_neg other]

/-- What a layer says about a setting: the last word of its entries. -/
def given? (group : SettingsGroup) (name : String) (layer : List (String × Setting))
    : Option String :=
  layer.reverse.findSome? (says? group name)

/-- What the highest layer says that says something about a setting; lower layers come first.
-/
def winner? (group : SettingsGroup) (name : String)
    (layers : List (List (String × Setting)))
    : Option String :=
  layers.reverse.findSome? (given? group name)

end Setting

/-- What the steps from a group's key lead to is a table with texts under the group's names, or
a text if it is under one of these names.
-/
def SettingsGroup.Fits (group : SettingsGroup) (value : Setting) : List KeyStep → Prop
  | [] =>
      ∃ origin held,
        value = .table origin held
        ∧ ∀ entry ∈ held, Text.lowerCase entry.1 ∈ group.members → entry.2.IsText
  | [.child name] => Text.lowerCase name ∈ group.members → value.IsText
  | .child name :: _ => Text.lowerCase name ∉ group.members
  | .item _ :: _ => False

/-- In the layer each group is a table, where it is there, and each setting a text, where it is
there. Other keys may hold anything.
-/
def Setting.Orderly (layer : List (String × Setting)) : Prop :=
  ∀ entry ∈ layer,
    ∀ group : SettingsGroup,
      Text.lowerCase (KeyPath.read entry.1).root = group.key
      → group.Fits entry.2 (KeyPath.read entry.1).steps

instance (value : Setting) : Decidable value.IsText :=
  match value with
  | .text text => .isTrue ⟨text, rfl⟩
  | .nothing | .boolean _ | .integer _ | .real _ | .list _ _ | .table _ _ =>
      .isFalse nofun

instance (group : SettingsGroup) (value : Setting)
    : (steps : List KeyStep) → Decidable (group.Fits value steps)
  | [] =>
      match value with
      | .table origin held =>
          decidable_of_iff
            (∀ entry ∈ held, Text.lowerCase entry.1 ∈ group.members → entry.2.IsText)
            ⟨fun texts => ⟨origin, held, rfl, texts⟩, fun ⟨_, _, same, texts⟩ => by
              cases same
              exact texts⟩
      | .nothing | .text _ | .boolean _ | .integer _ | .real _ | .list _ _ =>
          .isFalse nofun
  | [.child _] => inferInstanceAs (Decidable (_ → _))
  | .child _ :: _ :: _ => inferInstanceAs (Decidable (¬ _))
  | .item _ :: _ => .isFalse nofun

instance (holds : SettingsGroup → Prop) [DecidablePred holds]
    : Decidable (∀ group, holds group) :=
  decidable_of_iff (holds .input ∧ holds .output)
    ⟨fun ⟨input, output⟩ group => group.casesOn input output,
      fun each => ⟨each .input, each .output⟩⟩

instance (layer : List (String × Setting)) : Decidable (Setting.Orderly layer) :=
  inferInstanceAs (Decidable (∀ _ ∈ _, _))

-----------------------------------------------------------------------------------------
-- The entries of a group
-----------------------------------------------------------------------------------------

/-- The text under a name among the entries of a group. -/
def textOf (name : String) (held : List (String × Setting)) : Option String :=
  (Entries.find? name held).bind Setting.text?

/-- The entries have texts under the group's names. -/
def SettingsGroup.Tidy (group : SettingsGroup) (held : List (String × Setting)) : Prop :=
  ∀ name ∈ group.members, ∀ value, Entries.find? name held = some value → value.IsText

/-- The entries are tidy, and have the texts of other entries except where something else is
said.
-/
structure SettingsGroup.Follows (group : SettingsGroup) (before after : List (String × Setting))
    (said? : String → Option String)
    : Prop where
  tidy : group.Tidy after
  text : ∀ name ∈ group.members, textOf name after = (said? name).or (textOf name before)

namespace SettingsGroup.Follows

variable {group : SettingsGroup} {before middle after : List (String × Setting)}
  {first? second? : String → Option String}

theorem refl (tidy : group.Tidy before) : group.Follows before before fun _ => none where
  tidy := tidy
  text := fun _ _ => rfl

/-- What is said last counts first. -/
theorem trans (first : group.Follows before middle first?)
    (second : group.Follows middle after second?)
    : group.Follows before after fun name => (second? name).or (first? name) where
  tidy := second.tidy
  text := by
    intro name among
    rw [second.text name among, first.text name among, Option.or_assoc]

theorem congr (follows : group.Follows before after first?)
    (same : ∀ name ∈ group.members, first? name = second? name)
    : group.Follows before after second? where
  tidy := follows.tidy
  text := by
    intro name among
    rw [follows.text name among, same name among]

/-- Entries follow others if under each of the group's names they hold what is said, or else what
the others hold.
-/
theorem of_find? (tidy : group.Tidy before)
    (found
      : ∀ name ∈ group.members,
          Entries.find? name after
          = ((first? name).map .text).or (Entries.find? name before))
    : group.Follows before after first? := by
  constructor
  · intro name among value held
    rw [found name among] at held
    cases said : first? name with
    | none =>
        rw [said] at held
        exact tidy name among value held
    | some word =>
        rw [said] at held
        cases held
        exact ⟨word, rfl⟩
  · intro name among
    unfold textOf
    rw [found name among]
    cases first? name <;> rfl

end SettingsGroup.Follows

/-- Looking from the end, the first entry is the last resort. -/
theorem findSome?_reverse_cons {α β : Type} (word? : α → Option β) (entry : α) (rest : List α)
    : (entry :: rest).reverse.findSome? word?
      = (rest.reverse.findSome? word?).or (word? entry) := by
  rw [List.reverse_cons, List.findSome?_append, List.findSome?_singleton]

theorem Setting.find?_assign_of_ne {key name : String} (other : name ≠ Text.lowerCase key)
    (value : Setting) (held : List (String × Setting))
    : Entries.find? name (Setting.assign key value held) = Entries.find? name held := by
  cases value <;> simp only [Setting.assign, Entries.find?_put, if_neg other]

/-- An entry that is set says what it says, and all else is as before. -/
theorem SettingsGroup.follows_assign {group : SettingsGroup} {key : String}
    {value : Setting} {held : List (String × Setting)} (tidy : group.Tidy held)
    (text : Text.lowerCase key ∈ group.members → value.IsText)
    : group.Follows held (Setting.assign key value held)
        fun name => Setting.names? name (key, value) := by
  apply SettingsGroup.Follows.of_find? tidy
  intro name among
  by_cases same : Text.lowerCase key = name
  · subst same
    obtain ⟨word, rfl⟩ := text among
    simp [Setting.assign, Entries.find?_put, Setting.names?, Setting.text?]
  · have silent : Setting.names? name (key, value) = none := if_neg same
    rw [Setting.find?_assign_of_ne (Ne.symm same), silent]
    rfl

/-- A table that is merged into another says what its last entry under a name says, by induction
over its entries.
-/
theorem SettingsGroup.follows_merge {group : SettingsGroup}
    {held incoming : List (String × Setting)} (tidy : group.Tidy held)
    (texts : ∀ entry ∈ incoming, Text.lowerCase entry.1 ∈ group.members → entry.2.IsText)
    (origin : Option String)
    : ∃ merged,
        Setting.merge incoming (.table origin held) = .table origin merged
        ∧ group.Follows held merged
            fun name => incoming.reverse.findSome? (Setting.names? name) := by
  induction incoming generalizing held with
  | nil =>
      refine ⟨held, by rw [Setting.merge], .refl tidy⟩
  | cons entry rest ih =>
      obtain ⟨key, value⟩ := entry
      obtain ⟨text, texts⟩ := List.forall_mem_cons.mp texts
      have first := SettingsGroup.follows_assign tidy text
      obtain ⟨merged, result, others⟩ := ih first.tidy texts
      refine ⟨merged, ?_, (first.trans others).congr ?_⟩
      · rw [Setting.merge]
        exact result
      · intro name _
        exact (findSome?_reverse_cons ..).symm

-----------------------------------------------------------------------------------------
-- The root table
-----------------------------------------------------------------------------------------

/-- The entries of a group in the root table; an absent group has none. -/
def SettingsGroup.entriesIn (group : SettingsGroup) (root : List (String × Setting))
    : List (String × Setting) :=
  ((Entries.find? group.key root).map Setting.entries).getD []

theorem SettingsGroup.entriesIn_of_find? {group : SettingsGroup} {origin : Option String}
    {root held : List (String × Setting)}
    (found : Entries.find? group.key root = some (.table origin held))
    : group.entriesIn root = held := by
  unfold SettingsGroup.entriesIn
  rw [found]
  rfl

/-- Each group of the root table is a tidy table, where it is there. -/
structure Setting.Proper (root : List (String × Setting)) : Prop where
  table
    : ∀ (group : SettingsGroup) held,
        Entries.find? group.key root = some held
        → ∃ origin entries, held = .table origin entries
  tidy : ∀ group : SettingsGroup, group.Tidy (group.entriesIn root)

theorem Setting.proper_nil : Setting.Proper [] where
  table := nofun
  tidy := nofun

theorem Setting.exists_withEntries (target : Setting) (held : List (String × Setting))
    : ∃ origin, target.withEntries held = .table origin held := by
  cases target <;> exact ⟨_, rfl⟩

theorem KeyPath.find?_set_of_ne {path : KeyPath} {name : String}
    (other : name ≠ Text.lowerCase path.root) (value : Setting)
    (held : List (String × Setting))
    : Entries.find? name (path.set value held) = Entries.find? name held := by
  unfold KeyPath.set
  cases steps : path.steps with
  | nil => exact Setting.find?_assign_of_ne other value held
  | cons step rest => simp only [KeyPath.setSteps, Entries.find?_put, if_neg other]

section

variable {group : SettingsGroup} {key : String} {value : Setting}
  {root : List (String × Setting)}

/-- The group in the root table is a table of its entries, even where it was not there. -/
theorem Setting.Proper.exists_table (proper : Setting.Proper root) (group : SettingsGroup)
    : ∃ origin,
        (Entries.find? group.key root).getD (.table none [])
        = .table origin (group.entriesIn root) := by
  unfold SettingsGroup.entriesIn
  cases found : Entries.find? group.key root with
  | none => exact ⟨none, rfl⟩
  | some held =>
      obtain ⟨origin, entries, rfl⟩ := proper.table group held found
      exact ⟨origin, rfl⟩

theorem SettingsGroup.entries_getD (group : SettingsGroup) (root : List (String × Setting))
    : ((Entries.find? group.key root).getD .nothing).entries = group.entriesIn root := by
  unfold SettingsGroup.entriesIn
  cases Entries.find? group.key root <;> rfl

/-- An entry under another name than the group's does not touch its texts. -/
theorem SettingsGroup.follows_put {name : String} {held : List (String × Setting)}
    (tidy : group.Tidy held) (other : name ∉ group.members) (value : Setting)
    : group.Follows held (Entries.put name value held) fun _ => none := by
  apply SettingsGroup.Follows.of_find? tidy
  intro own among
  have different : own ≠ name := fun same => other (same ▸ among)
  rw [Entries.find?_put, if_neg different]
  rfl

/-- What steps that fit the group set leaves a table of the group's entries, which says what the
steps and the value say.
-/
theorem SettingsGroup.follows_steps {steps : List KeyStep} (proper : Setting.Proper root)
    (own : Text.lowerCase key = group.key) (fits : group.Fits value steps)
    : ∃ origin held,
        Entries.find? group.key (KeyPath.setSteps value key steps root)
          = some (.table origin held)
        ∧ group.Follows (group.entriesIn root) held
            fun name => Setting.tells? name value steps := by
  have tidy := proper.tidy group
  match steps, fits with
  | [], fits =>
      obtain ⟨_, incoming, rfl, texts⟩ := fits
      obtain ⟨origin, target⟩ := proper.exists_table group
      obtain ⟨merged, result, follows⟩ := SettingsGroup.follows_merge tidy texts origin
      refine ⟨origin, merged, ?_, follows⟩
      simp only [KeyPath.setSteps, Setting.assign, own, Entries.find?_put, if_true, target, result]
  | [.child child], text =>
      let target := (Entries.find? group.key root).getD .nothing
      obtain ⟨origin, result⟩ :=
        target.exists_withEntries (Setting.assign child value target.entries)
      refine ⟨origin, _, ?_, SettingsGroup.follows_assign tidy text⟩
      rw [← group.entries_getD root]
      simp only [KeyPath.setSteps, KeyPath.setSteps.follow, own, Entries.find?_put, if_true]
      exact congrArg some result
  | .child child :: next :: rest, other =>
      let target := (Entries.find? group.key root).getD .nothing
      let inner := (Entries.find? (Text.lowerCase child) target.entries).getD .nothing
      let changed := KeyPath.setSteps.follow value (next :: rest) inner
      obtain ⟨origin, result⟩ :=
        target.exists_withEntries (Entries.put (Text.lowerCase child) changed target.entries)
      refine ⟨origin, _, ?_, SettingsGroup.follows_put tidy other changed⟩
      rw [← group.entries_getD root]
      simp only [KeyPath.setSteps, KeyPath.setSteps.follow, own, Entries.find?_put, if_true]
      exact congrArg some result

end

/-- The root table is proper, and each setting has its text of another root table except where
something else is said about it.
-/
structure Setting.Follows (before after : List (String × Setting))
    (said? : SettingsGroup → String → Option String)
    : Prop where
  proper : Setting.Proper after
  group
    : ∀ group : SettingsGroup,
        group.Follows (group.entriesIn before) (group.entriesIn after) (said? group)

section

variable {root : List (String × Setting)} {key : String} {value : Setting}

/-- An entry that is laid over the root table leaves each group a table, which says what the
entry says about the group.
-/
theorem SettingsGroup.follows_set (group : SettingsGroup) (proper : Setting.Proper root)
    (fits
      : Text.lowerCase (KeyPath.read key).root = group.key
        → group.Fits value (KeyPath.read key).steps)
    : (∀ held,
        Entries.find? group.key ((KeyPath.read key).set value root) = some held
        → ∃ origin entries, held = .table origin entries)
      ∧ group.Follows (group.entriesIn root)
          (group.entriesIn ((KeyPath.read key).set value root))
          fun name => Setting.says? group name (key, value) := by
  by_cases own : Text.lowerCase (KeyPath.read key).root = group.key
  · obtain ⟨origin, held, found, follows⟩ :=
      SettingsGroup.follows_steps proper own (fits own)
    change Entries.find? group.key ((KeyPath.read key).set value root) = _ at found
    rw [found, SettingsGroup.entriesIn_of_find? found]
    refine ⟨?_, follows.congr ?_⟩
    · rintro _ ⟨⟩
      exact ⟨origin, held, rfl⟩
    · intro name _
      rw [Setting.says?_of_own own]
  · have unchanged := KeyPath.find?_set_of_ne (Ne.symm own) value root
    unfold SettingsGroup.entriesIn
    rw [unchanged]
    refine ⟨proper.table group, (SettingsGroup.Follows.refl (proper.tidy group)).congr ?_⟩
    intro name _
    rw [Setting.says?_of_other own]

/-- An entry that is laid over the root table says what it says. -/
theorem Setting.follows_set (proper : Setting.Proper root)
    (fits
      : ∀ group : SettingsGroup,
          Text.lowerCase (KeyPath.read key).root = group.key
          → group.Fits value (KeyPath.read key).steps)
    : Setting.Follows root ((KeyPath.read key).set value root)
        fun group name => Setting.says? group name (key, value) where
  proper :=
    { table := fun group => (group.follows_set proper (fits group)).1
      tidy := fun group => (group.follows_set proper (fits group)).2.tidy }
  group := fun group => (group.follows_set proper (fits group)).2

end

-----------------------------------------------------------------------------------------
-- Layers
-----------------------------------------------------------------------------------------

namespace Setting.Follows

variable {before middle after : List (String × Setting)}
  {first? second? : SettingsGroup → String → Option String}

theorem refl (proper : Setting.Proper before)
    : Setting.Follows before before fun _ _ => none where
  proper := proper
  group := fun group => .refl (proper.tidy group)

theorem trans (first : Setting.Follows before middle first?)
    (second : Setting.Follows middle after second?)
    : Setting.Follows before after
        fun group name => (second? group name).or (first? group name) where
  proper := second.proper
  group := fun group => (first.group group).trans (second.group group)

theorem congr (follows : Setting.Follows before after first?)
    (same : ∀ group name, first? group name = second? group name)
    : Setting.Follows before after second? where
  proper := follows.proper
  group := fun group => (follows.group group).congr fun name _ => same group name

end Setting.Follows

/-- A layer that is laid over the root table says what its last entry about a setting says, by
induction over its entries.
-/
theorem Setting.follows_overlay {root layer : List (String × Setting)}
    (proper : Setting.Proper root) (orderly : Setting.Orderly layer)
    : Setting.Follows root (Setting.overlay root layer)
        fun group name => Setting.given? group name layer := by
  induction layer generalizing root with
  | nil => exact .refl proper
  | cons entry rest ih =>
      obtain ⟨fits, orderly⟩ := List.forall_mem_cons.mp orderly
      have first := Setting.follows_set proper fits
      apply (first.trans (ih first.proper orderly)).congr
      intro group name
      unfold Setting.given?
      exact (findSome?_reverse_cons ..).symm

/-- Layers that are laid over the root table say what the highest says, by induction over them.
-/
theorem Setting.follows_overlayAll {root : List (String × Setting)}
    {layers : List (List (String × Setting))} (proper : Setting.Proper root)
    (orderly : ∀ layer ∈ layers, Setting.Orderly layer)
    : ∃ after,
        overlayAll root (layers.map .ok) = .ok after
        ∧ Setting.Follows root after fun group name => Setting.winner? group name layers := by
  induction layers generalizing root with
  | nil => exact ⟨root, rfl, .refl proper⟩
  | cons layer rest ih =>
      obtain ⟨lowest, orderly⟩ := List.forall_mem_cons.mp orderly
      have first := Setting.follows_overlay proper lowest
      obtain ⟨after, result, others⟩ := ih first.proper orderly
      refine ⟨after, result, (first.trans others).congr ?_⟩
      intro group name
      unfold Setting.winner?
      exact (findSome?_reverse_cons ..).symm

theorem Setting.winner?_concat (group : SettingsGroup) (name : String)
    (layers : List (List (String × Setting))) (top : List (String × Setting))
    : Setting.winner? group name (layers ++ [top])
      = (Setting.given? group name top).or (Setting.winner? group name layers) := by
  unfold Setting.winner?
  rw [List.reverse_concat, List.findSome?_cons]
  cases Setting.given? group name top <;> rfl

-----------------------------------------------------------------------------------------
-- Settings
-----------------------------------------------------------------------------------------

/-- The target of a name, if there is one; otherwise the one that holds without any source. -/
def Target.chosen : Option String → Except SettingsError Target
  | none => .ok Target.default
  | some name => takeTargetName name

/-- The settings that words give. Only a target's name can be wrong. -/
def Settings.chosen (word? : SettingsGroup → String → Option String)
    : Except SettingsError Settings :=
  (Target.chosen (word? .output "target")).map fun target =>
    ⟨word? .input "schema", word? .output "path", target⟩

theorem Settings.chosen_congr {first? second? : SettingsGroup → String → Option String}
    (same : ∀ group : SettingsGroup, ∀ name ∈ group.members,
      first? group name = second? group name)
    : Settings.chosen first? = Settings.chosen second? := by
  unfold Settings.chosen
  rw [same .input "schema" (by decide), same .output "path" (by decide),
    same .output "target" (by decide)]

theorem Entries.find?_filterMap {α : Type} (name : String) (value? : String → Option α)
    (members : List String)
    : Entries.find? name (members.filterMap fun own => (value? own).map (own, ·))
      = if name ∈ members then value? name else none := by
  induction members with
  | nil => rfl
  | cons own rest ih =>
      rw [List.filterMap_cons]
      by_cases same : name = own
      · subst same
        rw [if_pos List.mem_cons_self]
        cases found : value? name with
        | none =>
            rw [Option.map_none, ih, found]
            exact ite_self _
        | some value => exact if_pos rfl
      · simp only [List.mem_cons, same, false_or]
        cases value? own with
        | none => exact ih
        | some value => rw [Option.map_some, Entries.find?, if_neg (Ne.symm same), ih]

theorem memberText_of_find? {name key : String} {held : List (String × String × Setting)}
    {text? : Option String}
    (found : Entries.find? name held = text?.map fun text => (key, .text text))
    : memberText name held = .ok text? := by
  unfold memberText
  rw [found]
  cases text? <;> rfl

theorem memberTarget_of_find? {key : String} {held : List (String × String × Setting)}
    {text? : Option String}
    (found : Entries.find? "target" held = text?.map fun text => (key, .text text))
    : memberTarget held = Target.chosen text? := by
  unfold memberTarget
  rw [found]
  cases text? <;> rfl

/-- The settings of a group that is a table are its entries. -/
theorem SettingsGroup.find_of_table {group : SettingsGroup} {origin : Option String}
    {root held : List (String × Setting)}
    (found : Entries.find? group.key root = some (.table origin held))
    : ∃ given,
        group.find root = .ok given
        ∧ ∀ name ∈ group.members,
            Entries.find? name given
            = (Entries.find? name held).map fun value => (group.key ++ "." ++ name, value) := by
  unfold SettingsGroup.find
  rw [found]
  refine ⟨_, rfl, ?_⟩
  intro name among
  have looked :=
    Entries.find?_filterMap name
      (fun own => (Entries.find? own held).map fun value => (group.key ++ "." ++ own, value))
      group.members
  simp only [Option.map_map, if_pos among, Function.comp_def] at looked
  exact looked

namespace Setting.Proper

variable {root : List (String × Setting)}

/-- The settings of a group are its texts. -/
theorem find_eq (proper : Setting.Proper root) (group : SettingsGroup)
    : ∃ held,
        group.find root = .ok held
        ∧ ∀ name ∈ group.members,
            Entries.find? name held
            = (textOf name (group.entriesIn root)).map fun text =>
                (group.key ++ "." ++ name, .text text) := by
  cases found : Entries.find? group.key root with
  | none =>
      unfold SettingsGroup.find SettingsGroup.entriesIn
      rw [found]
      exact ⟨[], rfl, fun _ _ => rfl⟩
  | some value =>
      obtain ⟨origin, held, rfl⟩ := proper.table group value found
      obtain ⟨given, result, looked⟩ := SettingsGroup.find_of_table found
      have tidy := proper.tidy group
      rw [SettingsGroup.entriesIn_of_find? found] at tidy ⊢
      refine ⟨given, result, ?_⟩
      intro name among
      rw [looked name among, textOf]
      cases inner : Entries.find? name held with
      | none => rfl
      | some value =>
          obtain ⟨text, rfl⟩ := tidy name among value inner
          rfl

/-- A proper root table has the settings that its texts give. -/
theorem take_eq (proper : Setting.Proper root)
    : Settings.take root
      = Settings.chosen fun group name => textOf name (group.entriesIn root) := by
  obtain ⟨input, inputFound, inputTexts⟩ := proper.find_eq .input
  obtain ⟨output, outputFound, outputTexts⟩ := proper.find_eq .output
  have schema := memberText_of_find? (inputTexts "schema" (by decide))
  have path := memberText_of_find? (outputTexts "path" (by decide))
  have target := memberTarget_of_find? (outputTexts "target" (by decide))
  simp only [Settings.take, inputFound, outputFound, schema, path, target, bind, Except.bind]
  unfold Settings.chosen
  cases Target.chosen (textOf "target" (SettingsGroup.output.entriesIn root)) <;> rfl

end Setting.Proper

/-- Layers in which settings are texts give the settings that the highest of them say. -/
theorem Settings.take_overlayAll {layers : List (List (String × Setting))}
    (orderly : ∀ layer ∈ layers, Setting.Orderly layer)
    : (overlayAll [] (layers.map .ok)).bind Settings.take
      = Settings.chosen fun group name => Setting.winner? group name layers := by
  obtain ⟨root, result, follows⟩ := Setting.follows_overlayAll Setting.proper_nil orderly
  rw [result]
  apply Eq.trans follows.proper.take_eq
  apply Settings.chosen_congr
  intro group name among
  rw [(follows.group group).text name among]
  exact Option.or_none

end RecordSmith
