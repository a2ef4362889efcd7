import RecordSmith.Proofs.Settings.Layers

/-! Each setting has a variable of its own. What the environment says about a setting is the
value of its variable.
-/

namespace RecordSmith

/-- The variable of a setting: the mark, the group and the name, in capitals. -/
def SettingsGroup.variableOf (group : SettingsGroup) (name : String) : String :=
  "RECORDS__" ++ group.key.toUpper ++ "__" ++ name.toUpper

/-- The value reads neither as a truth value nor as a number. -/
def ReadsAsText (value : String) : Prop :=
  Text.lowerCase value ≠ "true"
  ∧ Text.lowerCase value ≠ "false"
  ∧ Decimal.integer? value.toList = none
  ∧ Decimal.double? value.toList = none

instance (value : String) : Decidable (ReadsAsText value) :=
  inferInstanceAs (Decidable (_ ∧ _))

/-- A variable that leads into a group is that of a setting and has a text as its value, or it
leads to something that is no setting.
-/
def PlainVariable (name value : String) : Prop :=
  ∀ key,
    Setting.variableKey? name = some key
    → ∀ group : SettingsGroup,
        Text.lowerCase (KeyPath.read key).root = group.key
        → (∃ member ∈ group.members,
            name = group.variableOf member ∧ ReadsAsText value)
          ∨ ∃ child rest,
              (KeyPath.read key).steps = .child child :: rest
              ∧ Text.lowerCase child ∉ group.members

/-- Each variable is there once and is plain. -/
structure PlainEnvironment (environment : List (String × String)) : Prop where
  distinct : (Entries.names environment).Nodup
  plain : ∀ name value, (name, value) ∈ environment → PlainVariable name value

theorem ReadsAsText.ofVariable_eq {value : String} (reads : ReadsAsText value)
    : Setting.ofVariable value = .text value := by
  obtain ⟨notTrue, notFalse, noInteger, noDouble⟩ := reads
  simp only [Setting.ofVariable, if_neg notTrue, if_neg notFalse, noInteger, noDouble]

theorem PlainEnvironment.tail {name value : String} {rest : List (String × String)}
    (plain : PlainEnvironment ((name, value) :: rest))
    : PlainEnvironment rest where
  distinct := (List.nodup_cons.mp plain.distinct).2
  plain := fun name value among => plain.plain name value (.tail _ among)

namespace SettingsGroup

variable {group : SettingsGroup} {name : String}

theorem variableKey?_variableOf (among : name ∈ group.members)
    : Setting.variableKey? (group.variableOf name) = some (group.key ++ "." ++ name) := by
  revert name
  cases group <;> decide +kernel

theorem read_key (among : name ∈ group.members)
    : KeyPath.read (group.key ++ "." ++ name) = ⟨group.key, [.child name]⟩ := by
  revert name
  cases group <;> decide +kernel

theorem lowerCase_key : Text.lowerCase group.key = group.key := by
  cases group <;> decide +kernel

theorem lowerCase_member (among : name ∈ group.members) : Text.lowerCase name = name := by
  revert name
  cases group <;> decide +kernel

/-- The key of a setting's variable says what it stands for about the setting, and nothing about
any other.
-/
theorem says?_key {member : String} (among : member ∈ group.members) (value : Setting)
    : Setting.says? group name (group.key ++ "." ++ member, value)
      = if member = name then value.text? else none := by
  simp only [Setting.says?, read_key among, lowerCase_key, if_true, Setting.tells?,
    Setting.names?, lowerCase_member among]

/-- Steps through another name say nothing about a setting. -/
theorem tells?_child {child : String} (other : Text.lowerCase child ≠ name) (value : Setting)
    (rest : List KeyStep)
    : Setting.tells? name value (.child child :: rest) = none := by
  cases rest with
  | nil => exact if_neg other
  | cons step rest => rfl

/-- A plain variable says its value about its setting, and nothing about any other. -/
theorem says?_variable {own value : String} (plain : PlainVariable own value)
    (among : name ∈ group.members)
    : ((Setting.variableKey? own).bind fun key =>
        Setting.says? group name (key, Setting.ofVariable value))
      = if own = group.variableOf name then some value else none := by
  split
  · next same =>
      subst same
      have key := variableKey?_variableOf among
      rw [key, Option.bind_some, says?_key among, if_pos rfl]
      rcases plain _ key group (by rw [read_key among, lowerCase_key])
        with ⟨_, _, _, reads⟩ | ⟨child, rest, steps, other⟩
      · rw [reads.ofVariable_eq]
        rfl
      · rw [read_key among] at steps
        cases steps
        rw [lowerCase_member among] at other
        exact absurd among other
  · next different =>
      cases key : Setting.variableKey? own with
      | none => rfl
      | some path =>
          rw [Option.bind_some]
          by_cases led : Text.lowerCase (KeyPath.read path).root = group.key
          · rcases plain path key group led with
              ⟨member, known, rfl, _⟩ | ⟨child, rest, steps, other⟩
            · cases (variableKey?_variableOf known).symm.trans key
              rw [says?_key known, if_neg]
              rintro rfl
              exact different rfl
            · rw [Setting.says?_of_own led, steps]
              exact tells?_child (fun same => other (same ▸ among)) _ rest
          · exact Setting.says?_of_other led name _

/-- What a variable says counts unless a later one says something. -/
theorem given?_ofVariables_cons (own value : String) (rest : List (String × String))
    : Setting.given? group name (Setting.ofVariables ((own, value) :: rest))
      = (Setting.given? group name (Setting.ofVariables rest)).or
          ((Setting.variableKey? own).bind fun key =>
            Setting.says? group name (key, Setting.ofVariable value)) := by
  simp only [Setting.ofVariables, List.filterMap_cons]
  cases Setting.variableKey? own with
  | none =>
      rw [Option.bind_none, Option.or_none]
      rfl
  | some key =>
      rw [Option.bind_some, Option.map_some]
      exact findSome?_reverse_cons (Setting.says? group name) _ _

/-- What the environment says about a setting is the value of its variable. -/
theorem given?_ofVariables {environment : List (String × String)}
    (plain : PlainEnvironment environment) (among : name ∈ group.members)
    : Setting.given? group name (Setting.ofVariables environment)
      = Entries.find? (group.variableOf name) environment := by
  induction environment with
  | nil => rfl
  | cons entry rest ih =>
      obtain ⟨own, value⟩ := entry
      rw [given?_ofVariables_cons, says?_variable (plain.plain own value (.head _)) among,
        ih plain.tail, Entries.find?]
      split
      · next same =>
          have fresh := (List.nodup_cons.mp plain.distinct).1
          rw [Entries.find?_of_not_mem (same ▸ fresh), Option.none_or]
      · exact Option.or_none

/-- Steps through another name than the group's may lead to anything. -/
theorem fits_child {child : String} (other : Text.lowerCase child ∉ group.members)
    (value : Setting) (rest : List KeyStep)
    : group.Fits value (.child child :: rest) := by
  cases rest with
  | nil => exact fun among => absurd among other
  | cons step rest => exact other

end SettingsGroup

/-- In a plain environment each setting is a text, where it is there. -/
theorem PlainEnvironment.orderly {environment : List (String × String)}
    (plain : PlainEnvironment environment)
    : Setting.Orderly (Setting.ofVariables environment) := by
  intro entry among group led
  obtain ⟨⟨own, value⟩, there, result⟩ := List.mem_filterMap.mp among
  obtain ⟨key, keyed, rfl⟩ := Option.map_eq_some_iff.mp result
  rcases plain.plain own value there key keyed group led
    with ⟨member, known, rfl, reads⟩ | ⟨child, rest, steps, other⟩
  · cases (SettingsGroup.variableKey?_variableOf known).symm.trans keyed
    simp only [SettingsGroup.read_key known, reads.ofVariable_eq]
    exact fun _ => ⟨value, rfl⟩
  · simp only [steps]
    exact SettingsGroup.fits_child other _ rest

/-- The variable of a setting is plain if its value reads as a text. -/
theorem ReadsAsText.plainVariable {name value : String} (reads : ReadsAsText value)
    (group : SettingsGroup) (among : name ∈ group.members)
    : PlainVariable (group.variableOf name) value := by
  intro key keyed other led
  cases (SettingsGroup.variableKey?_variableOf among).symm.trans keyed
  rw [SettingsGroup.read_key among, SettingsGroup.lowerCase_key] at led
  have same : group = other := by
    revert led
    cases group <;> cases other <;> decide
  subst same
  exact .inl ⟨name, among, rfl, reads⟩

end RecordSmith
