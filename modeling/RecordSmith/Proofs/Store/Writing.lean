import RecordSmith.Store.Basic

/-! What a write leaves: the text is read back at its path, and nothing else has changed. -/

namespace RecordSmith.Store

-----------------------------------------------------------------------------------------
-- Nodes
-----------------------------------------------------------------------------------------

theorem find?_put (location other : Location) (node : Node) (nodes : List (Location × Node))
    : find? other (put location node nodes)
      = if other = location then some node else find? other nodes := by
  induction nodes with
  | nil => simp [put, find?, eq_comm]
  | cons entry rest ih =>
      obtain ⟨held, old⟩ := entry
      unfold put
      split
      · next same =>
          subst same
          by_cases asked : held = other
          · simp [find?, asked]
          · simp [find?, asked, Ne.symm asked]
      · next different =>
          by_cases asked : held = other
          · subst asked
            simp [find?, different]
          · simp [find?, asked, ih]

theorem node?_insert {store : Store} {location : Location} (placed : location ≠ [])
    (node : Node) (other : Location)
    : (store.insert location node).node? other
      = if other = location then some node else store.node? other := by
  unfold node? insert
  by_cases root : other = []
  · subst root
    simp [Ne.symm placed]
  · simp [root, find?_put]

-----------------------------------------------------------------------------------------
-- Walking
-----------------------------------------------------------------------------------------

theorem walk_append (store : Store) (location : Location) (front back : List String)
    : store.walk location (front ++ back)
      = (store.walk location front).bind (store.walk · back) := by
  induction front generalizing location with
  | nil => rfl
  | cons name rest ih =>
      simp only [List.cons_append, walk]
      split
      · rfl
      · rfl
      · split
        · exact ih _
        · rfl

/-- A walk that ends with an empty name ends at a directory. -/
theorem walk_concat_empty {store : Store} {location parent : Location} {names : List String}
    (walked : store.walk location (names ++ [""]) = .ok parent)
    : store.walk location names = .ok parent ∧ store.node? parent = some .directory := by
  rw [walk_append] at walked
  cases reached : store.walk location names with
  | error failure =>
      rw [reached] at walked
      cases walked
  | ok last =>
      rw [reached] at walked
      simp only [Except.bind, walk] at walked
      split at walked
      · cases walked
      · cases walked
      · next directory =>
          split at walked
          · cases walked
            exact ⟨rfl, directory⟩
          · cases walked

/-- A new node that replaces no directory is on no way through directories. -/
theorem walk_insert {store : Store} {location start last : Location} {node : Node}
    {names : List String} (placed : location ≠ [])
    (notDirectory : store.node? location ≠ some .directory)
    (walked : store.walk start names = .ok last)
    : (store.insert location node).walk start names = .ok last := by
  induction names generalizing start with
  | nil => exact walked
  | cons name rest ih =>
      unfold walk at walked
      split at walked
      · cases walked
      · cases walked
      · next directory =>
          have elsewhere : start ≠ location := by
            rintro rfl
            exact notDirectory directory
          split at walked
          · next fits =>
              simp [walk, node?_insert placed, elsewhere, directory, fits, ih walked]
          · cases walked

-----------------------------------------------------------------------------------------
-- Paths
-----------------------------------------------------------------------------------------

/-- The last part of a text is empty only behind a cut. -/
theorem getLast?_splitOn {c : Char} {cs : List Char}
    (empty : (cs.splitOn c).getLast? = some [])
    : cs = [] ∨ cs.getLast? = some c := by
  induction cs with
  | nil => exact .inl rfl
  | cons d rest ih =>
      right
      rw [List.splitOn_cons_eq_if_modifyHead] at empty
      cases parts : rest.splitOn c with
      | nil => exact absurd parts (List.splitOn_ne_nil c rest)
      | cons part more =>
          rw [parts] at empty ih
          split at empty
          · next same =>
              rw [List.getLast?_cons_cons] at empty
              rcases ih empty with rfl | last
              · simpa using same
              · simp [List.getLast?_cons, last]
          · cases more with
            | nil => simp at empty
            | cons next more =>
                rw [List.modifyHead_cons, List.getLast?_cons_cons] at empty
                rcases ih (by rwa [List.getLast?_cons_cons]) with rfl | last
                · simp at parts
                · simp [List.getLast?_cons, last]

/-- What has to hold for a path to name a file that can be written. -/
structure Writable (store : Store) (base : Location) (path : String) (names : List String)
    (parent : Location) (last : String)
    : Prop where
  faultless : pathFault? path = none
  names_eq : namesOf path = names ++ [last]
  walked : store.walk (startOf base path) names = .ok parent
  directory : store.node? parent = some .directory
  fits : nameFits last
  named : last ≠ "" ∧ last ≠ "." ∧ last ≠ ".."
  free : store.node? (parent ++ [last]) ≠ some .directory

theorem exists_ok_of_bind {ε α β : Type} {first : Except ε α} {next : α → Except ε β}
    {result : β} (done : first >>= next = .ok result)
    : ∃ value, first = .ok value ∧ next value = .ok result := by
  cases first with
  | error failure => cases done
  | ok value => exact ⟨value, rfl, done⟩

/-- A path that does not end in a slash has a last name, which is not empty. -/
theorem reverse_namesOf {path : String} (faultless : pathFault? path = none)
    (unslashed : path.toList.getLast? ≠ some '/')
    : (namesOf path).reverse.dropWhile (· = "") = (namesOf path).reverse := by
  cases reversed : (namesOf path).reverse with
  | nil => rfl
  | cons last before =>
      have filled : last ≠ "" := by
        rintro rfl
        have ends : (namesOf path).getLast? = some "" := by
          rw [← List.head?_reverse, reversed]
          rfl
        simp only [namesOf, List.getLast?_map, Option.map_eq_some_iff] at ends
        obtain ⟨part, last, empty⟩ := ends
        have nothing : part = [] := by simpa using congrArg String.toList empty
        rcases getLast?_splitOn (nothing ▸ last) with none | slash
        · simp [pathFault?, String.toList_eq_nil_iff.mp none] at faultless
        · exact unslashed slash
      simp [filled]

/-- What the target of a write tells about its path. -/
theorem target_eq_ok {store : Store} {base location : Location} {path : String}
    (found : store.target base path = .ok location)
    : pathFault? path = none
      ∧ ∃ parent last,
          store.walk (startOf base path)
              (((namesOf path).reverse.dropWhile (· = "")).tail.reverse ++ [""])
            = .ok parent
          ∧ ((namesOf path).reverse.dropWhile (· = "")).head? = some last
          ∧ ((last ≠ "." ∧ last ≠ "..") ∧ path.toList.getLast? ≠ some '/')
          ∧ nameFits last
          ∧ store.node? (parent ++ [last]) ≠ some .directory
          ∧ location = parent ++ [last] := by
  unfold target at found
  split at found
  · cases found
  next faultless =>
  obtain ⟨parent, walked, found⟩ := exists_ok_of_bind found
  split at found
  · cases found
  next last first =>
  split at found
  · cases found
  next proper =>
  split at found
  · cases found
  next fits =>
  split at found
  · cases found
  next free =>
  cases found
  simp only [Bool.or_eq_true, decide_eq_true_eq, not_or] at proper
  exact ⟨faultless, parent, last, walked, first, proper, by simpa using fits, free, rfl⟩

theorem exists_writable {store : Store} {base location : Location} {path : String}
    (found : store.target base path = .ok location)
    : ∃ names parent last,
        store.Writable base path names parent last ∧ location = parent ++ [last] := by
  obtain ⟨faultless, parent, last, walked, first, proper, fits, free, rfl⟩ := target_eq_ok found
  obtain ⟨⟨notDot, notDots⟩, unslashed⟩ := proper
  have filled := List.head?_dropWhile_not (· = "") (namesOf path).reverse
  rw [first] at filled
  rw [reverse_namesOf faultless unslashed] at walked first
  obtain ⟨before, reversed⟩ := List.head?_eq_some_iff.mp first
  rw [reversed] at walked
  obtain ⟨walked, directory⟩ := walk_concat_empty walked
  have names_eq : namesOf path = before.reverse ++ [last] := by
    rw [← List.reverse_reverse (namesOf path), reversed, List.reverse_cons]
  refine ⟨before.reverse, parent, last, ?_, rfl⟩
  exact {
    faultless := faultless
    names_eq := names_eq
    walked := walked
    directory := directory
    fits := fits
    named := ⟨by simpa using filled, notDot, notDots⟩
    free := free }

-----------------------------------------------------------------------------------------
-- Writing
-----------------------------------------------------------------------------------------

/-- One store differs from another at most in a text at a location. -/
structure Rewrites (before after : Store) (location : Location) (text : String) : Prop where
  written : after.node? location = some (.file (.text text))
  others : ∀ other, other ≠ location → after.node? other = before.node? other

theorem rewrites_insert {store : Store} {location : Location} (placed : location ≠ [])
    (text : String)
    : store.Rewrites (store.insert location (.file (.text text))) location text where
  written := by rw [node?_insert placed, if_pos rfl]
  others := by
    intro other different
    rw [node?_insert placed, if_neg different]

/-- The path of a written file leads to it. -/
theorem Writable.locate_insert {store : Store} {base parent : Location} {path last : String}
    {names : List String} (writable : store.Writable base path names parent last)
    (node : Node)
    : (store.insert (parent ++ [last]) node).locate base path = .ok (parent ++ [last]) := by
  have placed : parent ++ [last] ≠ [] := by simp
  have above : parent ≠ parent ++ [last] := by simp
  have walked : (store.insert (parent ++ [last]) node).walk (startOf base path) names
      = .ok parent :=
    walk_insert placed writable.free writable.walked
  obtain ⟨notEmpty, notDot, notDots⟩ := writable.named
  unfold locate
  rw [writable.faultless, writable.names_eq]
  simp only [walk_append, walked, Except.bind, walk, node?_insert placed, if_neg above,
    writable.directory, writable.fits, if_true]
  simp [enter, notEmpty, notDot, notDots]

/-- A text that is written is read back by the same path, and all else is as before. -/
theorem writeText_eq_ok {store written : Store} {base : Location} {path text : String}
    (wrote : store.writeText base path text = .ok written)
    : written.readText base path = .ok text
      ∧ ∃ location,
          store.target base path = .ok location ∧ store.Rewrites written location text := by
  obtain ⟨location, found, wrote⟩ := exists_ok_of_bind wrote
  cases wrote
  obtain ⟨names, parent, last, writable, rfl⟩ := exists_writable found
  have rewrites := store.rewrites_insert (List.append_ne_nil_of_right_ne_nil parent
    (List.cons_ne_nil last [])) text
  refine ⟨?_, _, found, rewrites⟩
  unfold readText look
  rw [writable.locate_insert]
  simp only [bind, Except.bind, rewrites.written]

end RecordSmith.Store
