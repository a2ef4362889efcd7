import RecordSmith.Output
import RecordSmith.Proofs.Schema.Loading

/-! What is not read plays no part. Erasing from a root value all that no reader looks at, at every
depth, changes neither the document nor the error that is told.
-/

namespace RecordSmith

-----------------------------------------------------------------------------------------
-- Kept entries
-----------------------------------------------------------------------------------------

/-- The entries of some keys in their order, each with a value made from its own. -/
def Entries.kept {α : Type} (keys : List String) (change : String → α → α)
    (entries : List (String × α))
    : List (String × α) :=
  (entries.filter fun entry => entry.1 ∈ keys).map fun entry => (entry.1, change entry.1 entry.2)

section

variable {α : Type} {keys : List String} {change : String → α → α} {key : String}

theorem Entries.kept_cons (value : α) (rest : List (String × α))
    : Entries.kept keys change ((key, value) :: rest)
      = if key ∈ keys then (key, change key value) :: Entries.kept keys change rest
        else Entries.kept keys change rest := by
  by_cases among : key ∈ keys <;> simp [Entries.kept, among]

theorem Entries.find?_kept (among : key ∈ keys) (entries : List (String × α))
    : Entries.find? key (Entries.kept keys change entries)
      = (Entries.find? key entries).map (change key) := by
  induction entries with
  | nil => rfl
  | cons entry rest ih =>
      obtain ⟨own, value⟩ := entry
      rw [Entries.kept_cons, Entries.find?]
      by_cases same : own = key
      · subst same
        rw [if_pos among, if_pos rfl, Entries.find?, if_pos rfl, Option.map_some]
      · rw [if_neg same, ← ih]
        split
        · rw [Entries.find?, if_neg same]
        · rfl

theorem Entries.find?_kept_of_not_mem (apart : key ∉ keys) (entries : List (String × α))
    : Entries.find? key (Entries.kept keys change entries) = none := by
  apply Entries.find?_of_not_mem
  intro member
  simp only [Entries.names, Entries.kept, List.map_map, List.mem_map, List.mem_filter,
    Function.comp_apply, decide_eq_true_eq] at member
  obtain ⟨entry, ⟨_, among⟩, rfl⟩ := member
  exact apart among

end

-----------------------------------------------------------------------------------------
-- Erasing
-----------------------------------------------------------------------------------------

/-- The keys of a definition that are read. -/
def definitionKeys : List String :=
  ["description", "properties", "allOf"]

mutual

/-- A definition without the keys that are not read. -/
def Json.erased : Json → Json
  | .object members => .object (Json.erasedParts members)
  | other => other

/-- The parts of a definition that are read. -/
def Json.erasedParts : List (String × Json) → List (String × Json)
  | [] => []
  | (key, value) :: rest =>
      if key ∈ definitionKeys then (key, Json.erasedPart key value) :: Json.erasedParts rest
      else Json.erasedParts rest

/-- A part of a definition: properties have their schemas replaced by null, and the members of a
composition list are erased.
-/
def Json.erasedPart (key : String) : Json → Json
  | .object members =>
      if key = "properties" then .object (members.map fun entry => (entry.1, .null))
      else .object members
  | .array items =>
      if key = "allOf" then .array (Json.erasedItems items) else .array items
  | other => other

/-- The members of a composition list. -/
def Json.erasedItems : List Json → List Json
  | [] => []
  | item :: rest => Json.erasedMember item :: Json.erasedItems rest

/-- A member of a composition list: of an object with a pointer only the pointer, and otherwise what
is read of a definition.
-/
def Json.erasedMember : Json → Json
  | .object members =>
      if (Entries.find? "$ref" members).isSome then
        .object (Entries.kept ["$ref"] (fun _ value => value) members)
      else .object (Json.erasedParts members)
  | other => other

end

/-- The definitions under a root key, each erased. -/
def Json.erasedDefinitions : Json → Json
  | .object entries => .object (entries.map fun entry => (entry.1, entry.2.erased))
  | other => other

/-- A root value without all that is not read. -/
def Json.erasedRoot : Json → Json
  | .object members =>
      .object
        (Entries.kept ["definitions", "$defs"] (fun _ value => value.erasedDefinitions) members)
  | other => other

theorem Json.erasedParts_eq (members : List (String × Json))
    : Json.erasedParts members = Entries.kept definitionKeys Json.erasedPart members := by
  induction members with
  | nil =>
      rw [Json.erasedParts]
      rfl
  | cons entry rest ih =>
      obtain ⟨key, value⟩ := entry
      rw [Json.erasedParts, Entries.kept_cons, ih]

theorem Json.erasedItems_eq (items : List Json)
    : Json.erasedItems items = items.map Json.erasedMember := by
  induction items with
  | nil => rw [Json.erasedItems, List.map_nil]
  | cons item rest ih => rw [Json.erasedItems, List.map_cons, ih]

theorem Json.kind_erased (value : Json) : value.erased.kind = value.kind := by
  cases value <;> rfl

theorem Json.get?_erased {key : String} (read : key ∈ definitionKeys) (value : Json)
    : value.erased.get? key = (value.get? key).map (Json.erasedPart key) := by
  cases value with
  | object members =>
      rw [Json.erased, Json.get?, Json.get?, Json.erasedParts_eq, Entries.find?_kept read]
  | null | bool | number | string | array => rfl

-----------------------------------------------------------------------------------------
-- Reading
-----------------------------------------------------------------------------------------

theorem readDescription_erased (path : List String) (held : Option Json)
    : readDescription path (held.map (Json.erasedPart "description"))
      = readDescription path held := by
  cases held with
  | none => rfl
  | some value => cases value <;> rfl

theorem readProperties_erased (path : List String) (held : Option Json)
    : readProperties path (held.map (Json.erasedPart "properties"))
      = readProperties path held := by
  cases held with
  | none => rfl
  | some value =>
      cases value with
      | object members => simp [Json.erasedPart, readProperties, Entries.names]
      | null | bool | number | string | array => rfl

theorem readComposition_erased {path : List String} {held : Option Json}
    (read : ∀ items,
      held = some (.array items)
      → Member.readAll (path ++ ["allOf"]) 0 (items.map Json.erasedMember)
        = Member.readAll (path ++ ["allOf"]) 0 items)
    : readComposition path (held.map (Json.erasedPart "allOf")) = readComposition path held := by
  cases held with
  | none => rfl
  | some value =>
      cases value with
      | array items =>
          rw [Option.map_some, Json.erasedPart, if_pos rfl, Json.erasedItems_eq, readComposition,
            readComposition, read items rfl]
      | null | bool | number | string | object => rfl

mutual

/-- A definition is read alike without what is not read, by induction over the nesting. -/
theorem Definition.readAt_erased (path : List String) (value : Json)
    : Definition.readAt path value.erased = Definition.readAt path value := by
  by_cases object : value.kind = .object
  · have itemsRead (items : List Json) (held : value.get? "allOf" = some (.array items))
        : Member.readAll (path ++ ["allOf"]) 0 (items.map Json.erasedMember)
          = Member.readAll (path ++ ["allOf"]) 0 items :=
      have smaller := Json.sizeOf_items_lt held
      Member.readAll_erased (path ++ ["allOf"]) 0 items
    rw [Definition.readAt_of_kind (value.kind_erased.trans object),
      Definition.readAt_of_kind object, Json.get?_erased (by decide),
      Json.get?_erased (by decide), Json.get?_erased (by decide),
      readDescription_erased, readProperties_erased, readComposition_erased itemsRead]
  · rw [Definition.readAt_of_kind_ne object, Definition.readAt_of_kind_ne, value.kind_erased]
    rwa [value.kind_erased]
termination_by 2 * sizeOf value

theorem Member.readAll_erased (path : List String) (index : Nat) (items : List Json)
    : Member.readAll path index (items.map Json.erasedMember)
      = Member.readAll path index items := by
  match items with
  | [] => rfl
  | item :: rest =>
      rw [List.map_cons, Member.readAll, Member.readAll,
        Member.readAt_erased (path ++ [toString index]) item,
        Member.readAll_erased path (index + 1) rest]
termination_by 2 * sizeOf items

theorem Member.readAt_erased (path : List String) (value : Json)
    : Member.readAt path value.erasedMember = Member.readAt path value := by
  match value with
  | .object members =>
      rw [Json.erasedMember]
      cases found : Entries.find? "$ref" members with
      | some pointer =>
          have kept : Entries.find? "$ref" (Entries.kept ["$ref"] (fun _ value => value) members)
              = some pointer := by
            rw [Entries.find?_kept (by decide), found, Option.map_some]
          rw [if_pos (by simp), Member.readAt, Member.readAt, kept, found]
          cases pointer <;> rfl
      | none =>
          have apart : Entries.find? "$ref" (Json.erasedParts members) = none := by
            rw [Json.erasedParts_eq, Entries.find?_kept_of_not_mem (by decide)]
          have read := Definition.readAt_erased path (.object members)
          rw [Json.erased] at read
          rw [if_neg (by simp), Member.readAt, Member.readAt, apart, found]
          simp only [read]
  | .null | .bool _ | .number _ | .string _ | .array _ => rfl
termination_by 2 * sizeOf value + 1

end

theorem Document.readEntries_erased (document : Document) (entries : List (String × Json))
    : document.readEntries (entries.map fun entry => (entry.1, entry.2.erased))
      = document.readEntries entries := by
  induction entries generalizing document with
  | nil => rfl
  | cons entry rest ih =>
      obtain ⟨name, value⟩ := entry
      have read : Definition.ofJson value.erased = Definition.ofJson value :=
        Definition.readAt_erased [] value
      rw [List.map_cons, Document.readEntries, Document.readEntries, read]
      split
      · rfl
      · exact ih _

theorem Json.get?_erasedRoot {key : String} (among : key ∈ ["definitions", "$defs"])
    (root : Json)
    : root.erasedRoot.get? key = (root.get? key).map Json.erasedDefinitions := by
  cases root with
  | object members => exact Entries.find?_kept among members
  | null | bool | number | string | array => rfl

theorem Document.ofJson_of_erasedRoot (root : Json)
    : Document.ofJson root.erasedRoot = Document.ofJson root := by
  have selected : (Document.keys.findSome? fun key => root.erasedRoot.get? key)
      = (Document.keys.findSome? fun key => root.get? key).map Json.erasedDefinitions := by
    have ofFirst : root.erasedRoot.get? "definitions"
        = (root.get? "definitions").map Json.erasedDefinitions :=
      root.get?_erasedRoot (by decide)
    have ofSecond : root.erasedRoot.get? "$defs"
        = (root.get? "$defs").map Json.erasedDefinitions :=
      root.get?_erasedRoot (by decide)
    simp only [Document.keys, List.findSome?_cons, List.findSome?_nil, ofFirst, ofSecond]
    cases root.get? "definitions" with
    | none => cases root.get? "$defs" <;> rfl
    | some held => rfl
  rw [Document.ofJson, Document.ofJson, selected]
  cases Document.keys.findSome? fun key => root.get? key with
  | none => rfl
  | some held =>
      cases held with
      | object entries => exact Document.readEntries_erased .empty entries
      | null | bool | number | string | array => rfl

/-- A root value gives the same document, or the same error, without all that is not read. So the
output is the same, and values that differ only in what is not read cannot be told apart.
-/
theorem Document.ofJson_erased (root : Json)
    : Document.ofJson root.erasedRoot = Document.ofJson root
      ∧ (∀ target,
          (Document.ofJson root.erasedRoot).map (generate · target)
          = (Document.ofJson root).map (generate · target))
      ∧ ∀ other,
          other.erasedRoot = root.erasedRoot
          → Document.ofJson other = Document.ofJson root
            ∧ ∀ target,
                (Document.ofJson other).map (generate · target)
                = (Document.ofJson root).map (generate · target) := by
  have same := Document.ofJson_of_erasedRoot root
  refine ⟨same, fun target => by rw [same], ?_⟩
  intro other alike
  have read : Document.ofJson other = Document.ofJson root := by
    rw [← Document.ofJson_of_erasedRoot other, alike, same]
  exact ⟨read, fun target => by rw [read]⟩

/-- Definitions full of keywords that are not read, most of them malformed. -/
def crowded (description : Json) : Json :=
  .object
    [("title", .bool true),
      ("$defs",
        .object
          [("Point",
            .object
              [("$ref", .null), ("description", description), ("oneOf", .string "?"),
                ("properties", .object [("x", .object [("$ref", .null)]), ("y", .array [])]),
                ("allOf",
                  .array
                    [.object [("allOf", .null), ("$ref", .string "#"), ("properties", .null)],
                      .object
                        [("not", .null),
                          ("allOf", .array [.object [("anyOf", .null)]])]])])])]

/-- The same definitions with nothing but what is read. -/
def cleared (description : Json) : Json :=
  .object
    [("$defs",
      .object
        [("Point",
          .object
            [("description", description),
              ("properties", .object [("x", .null), ("y", .null)]),
              ("allOf",
                .array
                  [.object [("$ref", .string "#")],
                    .object [("allOf", .array [.object []])]])])])]

/-- The crowded definitions are read as the cleared ones, also when they are malformed. -/
theorem Document.ofJson_erased_crowded
    : (crowded (.string "A point.")).erasedRoot = (cleared (.string "A point.")).erasedRoot
      ∧ Document.ofJson (crowded (.string "A point."))
        = Document.ofJson (cleared (.string "A point."))
      ∧ Document.ofJson (crowded .null)
        = .error (.definition "Point" ⟨["description"], .string, .null⟩) := by
  have alike (description : Json)
      : (crowded description).erasedRoot = (cleared description).erasedRoot := by
    rfl
  have malformed : Document.ofJson (cleared .null)
      = .error (.definition "Point" ⟨["description"], .string, .null⟩) := by
    rw [Document.ofJson_of_selected rfl, Document.readEntries_eq_error_iff]
    exact ⟨[], "Point", _, [], _, rfl, nofun, by decide +kernel, rfl⟩
  obtain ⟨_, _, told⟩ := Document.ofJson_erased (cleared (.string "A point."))
  obtain ⟨_, _, refused⟩ := Document.ofJson_erased (cleared .null)
  exact ⟨alike _, (told _ (alike _)).1, (refused _ (alike _)).1.trans malformed⟩

end RecordSmith
