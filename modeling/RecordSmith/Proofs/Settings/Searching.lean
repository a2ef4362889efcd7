import Mathlib.Data.List.Forall2
import RecordSmith.Proofs.Store.Visibility
import RecordSmith.Settings.Sources

/-! Where settings are looked for. A write to any other place leaves the settings as they are.
-/

namespace RecordSmith

/-- A settings file of the name is looked for at the location: under the name itself, or under
the name as it is from the root, with or without the ending of a format.
-/
def SearchedFor (store : Store) (around : Surroundings) (location : Location)
    (name : String)
    : Prop :=
  store.locate around.directory name = .ok location
  ∨ ∃ names ∈ rootSteps around name :: (alternatives around name).map SettingsFile.names,
      store.locate [] (rootPath names) = .ok location

/-- Settings are looked for at the location: in the working directory, among the user's own
files, or where the user says.
-/
def Searches (store : Store) (around : Surroundings) (explicit : Option String)
    (location : Location)
    : Prop :=
  ∃ name ∈ localNames ++ around.userPath?.toList ++ explicit.toList,
    SearchedFor store around location name

instance (store : Store) (around : Surroundings) (location : Location) (name : String)
    : Decidable (SearchedFor store around location name) :=
  inferInstanceAs (Decidable (_ ∨ _))

instance (store : Store) (around : Surroundings) (explicit : Option String)
    (location : Location)
    : Decidable (Searches store around explicit location) :=
  inferInstanceAs (Decidable (∃ _ ∈ _, _))

-----------------------------------------------------------------------------------------
-- Files
-----------------------------------------------------------------------------------------

/-- A file that is found for a name is the name from the root, or an alternative to it. -/
theorem names_of_findFile {store : Store} {around : Surroundings} {name : String}
    {file : SettingsFile} (found : findFile store around name = .ok file)
    : file.names
      ∈ rootSteps around name :: (alternatives around name).map SettingsFile.names := by
  unfold findFile at found
  split at found
  · split at found
    · cases found
      exact .head _
    · cases found
  · split at found
    · next chosen =>
        cases found
        exact .tail _ (List.mem_map_of_mem (List.mem_of_find?_eq_some chosen))
    · cases found

section

variable {before after : Store} {around : Surroundings} {location : Location}
  {name text : String} (rewrites : before.Rewrites after location text)
  (free : before.node? location ≠ some .directory)
  (unsearched : ¬ SearchedFor before around location name)

include rewrites free unsearched

theorem findFile_elsewhere : findFile after around name = findFile before around name := by
  have itself : after.isFile around.directory name = before.isFile around.directory name :=
    Store.isFile_eq_of_look
      (rewrites.look_sameSuccess free fun here => unsearched (.inl here))
  have others
      : (alternatives around name).find? (fun file => after.isFile [] (rootPath file.names))
        = (alternatives around name).find? fun file =>
            before.isFile [] (rootPath file.names) := by
    rw [← List.head?_filter, ← List.head?_filter]
    congr 1
    apply List.filter_congr
    intro file among
    apply Store.isFile_eq_of_look
    apply rewrites.look_sameSuccess free
    intro here
    exact unsearched (.inr ⟨file.names, .tail _ (List.mem_map_of_mem among), here⟩)
  unfold findFile
  rw [itself, others]

theorem openFile_elsewhere
    : SameSuccess (openFile after around name) (openFile before around name) := by
  unfold openFile
  rw [findFile_elsewhere rewrites free unsearched]
  apply (SameSuccess.of_eq rfl).bind
  intro file found
  have read
      : SameSuccess (after.readText [] (rootPath file.names))
          (before.readText [] (rootPath file.names)) := by
    apply Store.readText_of_look
    apply rewrites.look_sameSuccess free
    intro here
    exact unsearched (.inr ⟨file.names, names_of_findFile found, here⟩)
  rcases read.cases with ⟨value, now, earlier⟩ | ⟨_, _, now, earlier⟩
  · rw [now, earlier]
    exact .of_eq rfl
  · rw [now, earlier]
    exact .of_errors _ _

theorem requiredEntries_elsewhere
    : SameSuccess (requiredEntries after around name) (requiredEntries before around name) :=
  (openFile_elsewhere rewrites free unsearched).bind fun _ _ => .of_eq rfl

theorem optionalEntries_elsewhere
    : optionalEntries after around name = optionalEntries before around name := by
  unfold optionalEntries
  rcases (openFile_elsewhere rewrites free unsearched).cases with
    ⟨opened, now, earlier⟩ | ⟨_, _, now, earlier⟩
  · rw [now, earlier]
  · rw [now, earlier]

end

-----------------------------------------------------------------------------------------
-- All sources
-----------------------------------------------------------------------------------------

/-- Sources that succeed alike are laid over each other alike, by induction over the sources. -/
theorem overlayAll_sameSuccess
    {first second : List (Except SettingsError (List (String × Setting)))}
    (same : List.Forall₂ SameSuccess first second) (held : List (String × Setting))
    : SameSuccess (overlayAll held first) (overlayAll held second) := by
  induction same generalizing held with
  | nil => exact .of_eq rfl
  | cons head _ ih =>
      rcases head.cases with ⟨entries, rfl, rfl⟩ | ⟨_, _, rfl, rfl⟩
      · exact ih _
      · exact .of_errors _ _

theorem userFile?_subset {store : Store} {around : Surroundings} {name : String}
    (own : name ∈ (userFile? store around).toList)
    : name ∈ around.userPath?.toList := by
  rw [Option.mem_toList] at own ⊢
  exact Option.eq_some_of_filter_eq_some own

section

variable {before after : Store} {around : Surroundings} {explicit : Option String}
  {location : Location} {text : String} (rewrites : before.Rewrites after location text)
  (free : before.node? location ≠ some .directory)
  (unsearched : ¬ Searches before around explicit location)

include rewrites free unsearched

theorem userFile?_elsewhere : userFile? after around = userFile? before around := by
  unfold userFile?
  cases own : around.userPath? with
  | none => rfl
  | some path =>
      have unseen : before.locate around.directory path ≠ .ok location :=
        fun here => unsearched ⟨path, by simp [own], .inl here⟩
      have same := Store.holds_eq_of_look (rewrites.look_sameSuccess free unseen)
      simp only [Option.filter, same]

theorem sources_elsewhere
    : List.Forall₂ SameSuccess (sources after around explicit)
        (sources before around explicit) := by
  have apart {name : String}
      (among : name ∈ localNames ++ around.userPath?.toList ++ explicit.toList)
      : ¬ SearchedFor before around location name :=
    fun searched => unsearched ⟨name, among, searched⟩
  have optional
      : (localNames ++ (userFile? after around).toList).map (optionalEntries after around)
        = (localNames ++ (userFile? before around).toList).map
            (optionalEntries before around) := by
    rw [userFile?_elsewhere rewrites free unsearched]
    apply List.map_congr_left
    intro name among
    apply optionalEntries_elsewhere rewrites free
    apply apart
    rcases List.mem_append.mp among with fixed | own
    · simp [fixed]
    · simp [userFile?_subset own]
  have required
      : List.Forall₂ SameSuccess (explicit.toList.map (requiredEntries after around))
          (explicit.toList.map (requiredEntries before around)) := by
    cases explicit with
    | none => exact .nil
    | some path => exact .cons (requiredEntries_elsewhere rewrites free (apart (by simp))) .nil
  have unchanged (given : List (Except SettingsError (List (String × Setting))))
      : List.Forall₂ SameSuccess given given :=
    List.forall₂_same.mpr fun _ _ => .of_eq rfl
  unfold sources
  rw [optional]
  exact List.rel_append (List.rel_append (unchanged _) required) (unchanged _)

/-- A write to a place where no settings are looked for leaves the settings as they are. -/
theorem Settings.load_elsewhere
    : SameSuccess (Settings.load after around explicit)
        (Settings.load before around explicit) :=
  (overlayAll_sameSuccess (sources_elsewhere rewrites free unsearched) []).bind
    fun _ _ => .of_eq rfl

end

end RecordSmith
