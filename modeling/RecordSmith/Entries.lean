/-! Named entries in order, each name looked up from the front. -/

namespace RecordSmith.Entries

/-- The value of the first entry with the given name. -/
def find? {α : Type} (name : String) : List (String × α) → Option α
  | [] => none
  | (key, value) :: rest => if key = name then some value else find? name rest

/-- Sets an entry. A name that is already there keeps its place, a new one comes last. -/
def put {α : Type} (name : String) (value : α) : List (String × α) → List (String × α)
  | [] => [(name, value)]
  | (key, old) :: rest =>
      if key = name then (key, value) :: rest else (key, old) :: put name value rest

/-- The names of the entries, in order. -/
def names {α : Type} (entries : List (String × α)) : List String :=
  entries.map Prod.fst

/-- Setting an entry adds its name at the end, unless it is there. -/
theorem names_put {α : Type} (name : String) (value : α) (entries : List (String × α))
    : names (put name value entries)
      = if name ∈ names entries then names entries else names entries ++ [name] := by
  induction entries with
  | nil => simp [put, names]
  | cons entry rest ih =>
      obtain ⟨key, old⟩ := entry
      unfold put
      by_cases same : key = name
      · simp [same, names]
      · simp only [names] at ih
        simp only [same, if_false, names, List.map_cons, List.mem_cons, Ne.symm same, false_or, ih]
        split <;> simp_all

/-- An entry with a new name comes last. -/
theorem put_of_not_mem {α : Type} {name : String} {entries : List (String × α)}
    (fresh : name ∉ names entries) (value : α)
    : put name value entries = entries ++ [(name, value)] := by
  induction entries with
  | nil => rfl
  | cons entry rest ih =>
      obtain ⟨key, old⟩ := entry
      simp only [names, List.map_cons, List.mem_cons, not_or] at fresh
      rw [put, if_neg (Ne.symm fresh.1), ih fresh.2]
      rfl

/-- Distinct names stay distinct when an entry is set. -/
theorem nodup_names_put {α : Type} {name : String} {value : α} {entries : List (String × α)}
    (distinct : (names entries).Nodup)
    : (names (put name value entries)).Nodup := by
  rw [names_put]
  split
  · exact distinct
  · next fresh =>
      rw [List.nodup_append]
      refine ⟨distinct, by simp, ?_⟩
      intro a ha b hb
      simp only [List.mem_singleton] at hb
      subst hb
      exact fun h => fresh (h ▸ ha)

/-- The entry that was set is found under its name, and every other name finds what it found
before.
-/
theorem find?_put {α : Type} (name other : String) (value : α) (entries : List (String × α))
    : find? other (put name value entries)
      = if other = name then some value else find? other entries := by
  induction entries with
  | nil => simp [put, find?, eq_comm]
  | cons entry rest ih =>
      obtain ⟨key, old⟩ := entry
      unfold put
      split
      · next same =>
          subst same
          by_cases asked : key = other
          · simp [find?, asked]
          · simp [find?, asked, Ne.symm asked]
      · next different =>
          by_cases asked : key = other
          · subst asked
            simp [find?, different]
          · simp [find?, asked, ih]

/-- An entry that comes last under a new name is found. -/
theorem find?_concat {α : Type} {name : String} {front : List (String × α)}
    (fresh : name ∉ names front) (value : α)
    : find? name (front ++ [(name, value)]) = some value := by
  rw [← put_of_not_mem fresh, find?_put, if_pos rfl]

/-- Setting the last entry changes nothing before it. -/
theorem put_concat {α : Type} {name : String} {front : List (String × α)}
    (fresh : name ∉ names front) (old value : α)
    : put name value (front ++ [(name, old)]) = front ++ [(name, value)] := by
  induction front with
  | nil => exact if_pos rfl
  | cons entry rest ih =>
      obtain ⟨key, held⟩ := entry
      simp only [names, List.map_cons, List.mem_cons, not_or] at fresh
      rw [List.cons_append, put, if_neg (Ne.symm fresh.1), ih fresh.2]
      rfl

/-- Changing all values changes what is found. -/
theorem find?_map {α β : Type} (name : String) (change : α → β)
    (entries : List (String × α))
    : find? name (entries.map fun entry => (entry.1, change entry.2))
      = (find? name entries).map change := by
  induction entries with
  | nil => rfl
  | cons entry rest ih =>
      rw [List.map_cons, find?, find?, ih]
      split <;> rfl

/-- A name has an entry exactly when it is among the names. -/
theorem find?_isSome_iff {α : Type} {name : String} {entries : List (String × α)}
    : (find? name entries).isSome ↔ name ∈ names entries := by
  induction entries with
  | nil => simp [find?, names]
  | cons entry rest ih =>
      obtain ⟨key, value⟩ := entry
      unfold find?
      by_cases same : key = name
      · simp [same, names]
      · simp only [same, if_false, ih, names, List.map_cons, List.mem_cons, Ne.symm same, false_or]

/-- A name that no entry has finds nothing. -/
theorem find?_of_not_mem {α : Type} {name : String} {entries : List (String × α)}
    (fresh : name ∉ names entries)
    : find? name entries = none :=
  Option.not_isSome_iff_eq_none.mp fun found => fresh (find?_isSome_iff.mp found)

theorem mem_of_find? {α : Type} {name : String} {value : α} {entries : List (String × α)}
    (found : find? name entries = some value)
    : (name, value) ∈ entries := by
  induction entries with
  | nil => cases found
  | cons entry rest ih =>
      obtain ⟨key, held⟩ := entry
      unfold find? at found
      split at found
      · next same =>
          cases found
          exact same ▸ .head _
      · exact .tail _ (ih found)

/-- Under distinct names each entry is the one that its name finds. -/
theorem find?_eq_some_iff {α : Type} {name : String} {value : α}
    {entries : List (String × α)} (distinct : (names entries).Nodup)
    : find? name entries = some value ↔ (name, value) ∈ entries := by
  refine ⟨mem_of_find?, ?_⟩
  intro member
  induction entries with
  | nil => cases member
  | cons entry rest ih =>
      obtain ⟨key, held⟩ := entry
      obtain ⟨fresh, later⟩ := List.nodup_cons.mp distinct
      unfold find?
      rcases List.mem_cons.mp member with same | behind
      · cases same
        simp
      · have other : key ≠ name := by
          rintro rfl
          exact fresh (List.mem_map.mpr ⟨_, behind, rfl⟩)
        rw [if_neg other, ih later behind]

/-- A value that is found is smaller than the list that holds it. -/
theorem sizeOf_find? {α : Type} [SizeOf α] {name : String} {entries : List (String × α)}
    {value : α} (h : find? name entries = some value)
    : sizeOf value < sizeOf entries := by
  induction entries with
  | nil => simp [find?] at h
  | cons entry rest ih =>
      obtain ⟨key, held⟩ := entry
      unfold find? at h
      split at h
      · cases h
        simp
        omega
      · have := ih h
        simp
        omega

end RecordSmith.Entries
