import RecordSmith.Proofs.Schema.Grammar
import RecordSmith.Schema.Document

/-! Reading accepts exactly the well-formed values. Of all that is wrong with another value it
reports what comes first in reading order.
-/

namespace RecordSmith

-----------------------------------------------------------------------------------------
-- Verdicts
-----------------------------------------------------------------------------------------

/-- The value, unless there are violations; then the first of them. -/
def verdict {α : Type} (faults : List Malformed) (value : α) : Except Malformed α :=
  match faults with
  | [] => .ok value
  | fault :: _ => .error fault

/-- Violations of what is read later come after those of what is read first. -/
theorem verdict_bind {α β : Type} {faults more : List Malformed} {value : α}
    {next : α → Except Malformed β} {result : β} (later : next value = verdict more result)
    : (verdict faults value >>= next) = verdict (faults ++ more) result := by
  cases faults with
  | nil => exact later
  | cons fault rest => rfl

theorem verdict_map {α β : Type} (faults : List Malformed) (value : α) (f : α → β)
    : (verdict faults value).map f = verdict faults (f value) := by
  cases faults <;> rfl

theorem verdict_eq_ok_iff {α : Type} {faults : List Malformed} {value result : α}
    : verdict faults value = .ok result ↔ faults = [] ∧ value = result := by
  cases faults <;> simp [verdict]

theorem verdict_eq_error_iff {α : Type} {faults : List Malformed} {value : α}
    {fault : Malformed}
    : verdict faults value = .error fault ↔ faults.head? = some fault := by
  cases faults <;> simp [verdict]

-----------------------------------------------------------------------------------------
-- Definitions
-----------------------------------------------------------------------------------------

theorem Json.get?_of_kind_ne {value : Json} (other : value.kind ≠ .object) (key : String)
    : value.get? key = none := by
  cases value with
  | object members => exact absurd rfl other
  | null | bool _ | number _ | string _ | array _ => rfl

theorem Json.exists_members {value : Json} (object : value.kind = .object)
    : ∃ members, value = .object members := by
  cases value with
  | object members => exact ⟨members, rfl⟩
  | null | bool _ | number _ | string _ | array _ => cases object

/-- Nothing else is wrong with a value that is no object. -/
theorem Json.violations_of_kind_ne {value : Json} (other : value.kind ≠ .object)
    (path : List String)
    : value.violations path = [⟨path, .object, value.kind⟩] := by
  rw [Json.violations_eq]
  simp [partMisfit, Json.get?_of_kind_ne other, misfit, other]

theorem Definition.readAt_of_kind_ne {value : Json} (other : value.kind ≠ .object)
    (path : List String)
    : Definition.readAt path value = .error ⟨path, .object, value.kind⟩ := by
  cases value with
  | object members => exact absurd rfl other
  | null | bool _ | number _ | string _ | array _ => simp [Definition.readAt]

theorem Member.readAt_of_kind_ne {value : Json} (other : value.kind ≠ .object)
    (path : List String)
    : Member.readAt path value = .error ⟨path, .object, value.kind⟩ := by
  cases value with
  | object members => exact absurd rfl other
  | null | bool _ | number _ | string _ | array _ => simp [Member.readAt]

theorem readDescription_eq (path : List String) (value : Json)
    : readDescription path (value.get? "description")
      = verdict (partMisfit path "description" .string value)
          ((value.get? "description").bind Json.text?) := by
  unfold partMisfit
  cases value.get? "description" with
  | none => rfl
  | some held => cases held <;> rfl

theorem readProperties_eq (path : List String) (value : Json)
    : readProperties path (value.get? "properties")
      = verdict (partMisfit path "properties" .object value)
          ((value.get? "properties").map Json.keys) := by
  unfold partMisfit
  cases value.get? "properties" with
  | none => rfl
  | some held => cases held <;> rfl

/-- Reads a composition list, which is an array of members. -/
def readComposition (path : List String) : Option Json → Except Malformed (Option (List Member))
  | none => .ok none
  | some (.array items) => (Member.readAll (path ++ ["allOf"]) 0 items).map some
  | some other => .error ⟨path ++ ["allOf"], .array, other.kind⟩

theorem Definition.readAt_of_kind {value : Json} (object : value.kind = .object)
    (path : List String)
    : Definition.readAt path value
      = do
          let description ← readDescription path (value.get? "description")
          let properties ← readProperties path (value.get? "properties")
          let composition ← readComposition path (value.get? "allOf")
          return ⟨description, properties, composition⟩ := by
  obtain ⟨members, rfl⟩ := Json.exists_members object
  rw [Definition.readAt]
  congr 1
  funext description
  congr 1
  funext properties
  simp only [Json.get?]
  split
  · next missing => rw [missing, readComposition]
  · next items held =>
      rw [held, readComposition]
      cases Member.readAll (path ++ ["allOf"]) 0 items <;> rfl
  · next other notArray held =>
      rw [held]
      cases other with
      | array items => exact (notArray items rfl).elim
      | null | bool _ | number _ | string _ | object _ => rfl

theorem readComposition_eq {path : List String} {value : Json}
    (read : ∀ list,
      value.get? "allOf" = some list
      → Member.readAll (path ++ ["allOf"]) 0 list.items
        = verdict (Json.itemViolations (path ++ ["allOf"]) 0 list.items)
            (Json.memberList list.items))
    : readComposition path (value.get? "allOf")
      = verdict
          (partMisfit path "allOf" .array value
            ++ (value.get? "allOf").toList.flatMap fun list =>
                Json.itemViolations (path ++ ["allOf"]) 0 list.items)
          ((value.get? "allOf").map fun list => Json.memberList list.items) := by
  unfold partMisfit
  cases held : value.get? "allOf" with
  | none => rfl
  | some list =>
      cases list with
      | array items =>
          have itemsRead := read _ held
          simp only [Json.items] at itemsRead
          rw [readComposition, itemsRead, verdict_map]
          simp [misfit, Json.kind, Json.items]
      | null | bool _ | number _ | string _ | object _ => rfl

mutual

/-- A definition is read as what the value says, unless something is wrong with it, by induction
over the nesting.
-/
theorem Definition.readAt_eq (path : List String) (value : Json)
    : Definition.readAt path value = verdict (value.violations path) value.definition := by
  by_cases object : value.kind = .object
  · have itemsRead (list : Json) (held : value.get? "allOf" = some list)
        : Member.readAll (path ++ ["allOf"]) 0 list.items
          = verdict (Json.itemViolations (path ++ ["allOf"]) 0 list.items)
              (Json.memberList list.items) :=
      have smaller := Json.sizeOf_items_lt held
      Member.readAll_eq (path ++ ["allOf"]) 0 list.items
    rw [Definition.readAt_of_kind object, readDescription_eq, readProperties_eq,
      readComposition_eq itemsRead, Json.violations_eq, Json.definition_eq,
      misfit_eq_nil_iff.mpr object]
    simp only [List.nil_append, List.append_assoc]
    apply verdict_bind
    apply verdict_bind
    exact verdict_map _ _ _
  · rw [Definition.readAt_of_kind_ne object, Json.violations_of_kind_ne object]
    rfl
termination_by 2 * sizeOf value

theorem Member.readAll_eq (path : List String) (index : Nat) (items : List Json)
    : Member.readAll path index items
      = verdict (Json.itemViolations path index items) (Json.memberList items) := by
  match items with
  | [] =>
      rw [Member.readAll, Json.itemViolations, Json.memberList]
      rfl
  | item :: rest =>
      rw [Member.readAll, Json.itemViolations, Json.memberList,
        Member.readAt_eq (path ++ [toString index]) item]
      apply verdict_bind
      rw [Member.readAll_eq path (index + 1) rest]
      exact verdict_map _ _ _
termination_by 2 * sizeOf items

theorem Member.readAt_eq (path : List String) (value : Json)
    : Member.readAt path value
      = verdict (Json.memberViolations path value) value.member := by
  by_cases object : value.kind = .object
  · obtain ⟨members, rfl⟩ := Json.exists_members object
    have read := Definition.readAt_eq path (.object members)
    rw [Member.readAt, Json.memberViolations, Json.member]
    simp only [Json.get?]
    cases Entries.find? "$ref" members with
    | none =>
        simp only [read]
        exact verdict_map _ _ _
    | some pointer => cases pointer <;> rfl
  · rw [Member.readAt_of_kind_ne object, Json.memberViolations,
      Json.get?_of_kind_ne object]
    simp only [Json.violations_of_kind_ne object]
    rfl
termination_by 2 * sizeOf value + 1

end

theorem Definition.ofJson_eq (value : Json)
    : Definition.ofJson value = verdict (value.violations []) value.definition :=
  Definition.readAt_eq [] value

theorem Definition.ofJson_of_wellFormed {value : Json} (wellFormed : value.WellFormed)
    : Definition.ofJson value = .ok value.definition := by
  rw [Definition.ofJson_eq, (Json.violations_eq_nil_iff [] value).mpr wellFormed]
  rfl

theorem Definition.ofJson_eq_ok_iff {value : Json} {definition : Definition}
    : Definition.ofJson value = .ok definition
      ↔ value.WellFormed ∧ value.definition = definition := by
  rw [Definition.ofJson_eq, verdict_eq_ok_iff, Json.violations_eq_nil_iff]

theorem Definition.ofJson_eq_error_iff {value : Json} {fault : Malformed}
    : Definition.ofJson value = .error fault
      ↔ (value.violations []).head? = some fault := by
  rw [Definition.ofJson_eq, verdict_eq_error_iff]

-----------------------------------------------------------------------------------------
-- Documents
-----------------------------------------------------------------------------------------

namespace Document

/-- Either all entries are well formed, or one comes first that is not. -/
theorem exists_first_malformed (entries : List (String × Json))
    : (∀ entry ∈ entries, entry.2.WellFormed)
      ∨ ∃ before name value rest fault,
          entries = before ++ (name, value) :: rest
          ∧ (∀ entry ∈ before, entry.2.WellFormed)
          ∧ (value.violations []).head? = some fault := by
  induction entries with
  | nil => exact .inl nofun
  | cons entry rest ih =>
      obtain ⟨name, value⟩ := entry
      cases wrong : value.violations [] with
      | cons fault more => exact .inr ⟨[], name, value, rest, fault, rfl, nofun, by rw [wrong]; rfl⟩
      | nil =>
          have wellFormed := (Json.violations_eq_nil_iff [] value).mp wrong
          rcases ih with all | ⟨before, last, bad, after, fault, rfl, front, first⟩
          · exact .inl (List.forall_mem_cons.mpr ⟨wellFormed, all⟩)
          · exact .inr ⟨(name, value) :: before, last, bad, after, fault, rfl,
              List.forall_mem_cons.mpr ⟨wellFormed, front⟩, first⟩

theorem readEntries_of_wellFormed (document : Document) {entries : List (String × Json)}
    (wellFormed : ∀ entry ∈ entries, entry.2.WellFormed)
    : ∃ result, document.readEntries entries = .ok result := by
  induction entries generalizing document with
  | nil => exact ⟨document, rfl⟩
  | cons entry rest ih =>
      obtain ⟨name, value⟩ := entry
      obtain ⟨first, others⟩ := List.forall_mem_cons.mp wellFormed
      rw [readEntries, Definition.ofJson_of_wellFormed first]
      exact ih (document.insert name value.definition) others

/-- Reading stops at the first entry that is malformed, by induction over those in front. -/
theorem readEntries_of_malformed (document : Document) {before rest : List (String × Json)}
    {name : String} {value : Json} {fault : Malformed}
    (wellFormed : ∀ entry ∈ before, entry.2.WellFormed)
    (first : (value.violations []).head? = some fault)
    : document.readEntries (before ++ (name, value) :: rest)
      = .error (.definition name fault) := by
  induction before generalizing document with
  | nil => rw [List.nil_append, readEntries, Definition.ofJson_eq_error_iff.mpr first]
  | cons entry before ih =>
      obtain ⟨other, held⟩ := entry
      obtain ⟨front, others⟩ := List.forall_mem_cons.mp wellFormed
      rw [List.cons_append, readEntries, Definition.ofJson_of_wellFormed front]
      exact ih (document.insert other held.definition) others

theorem readEntries_eq_ok_iff (document : Document) (entries : List (String × Json))
    : (∃ result, document.readEntries entries = .ok result)
      ↔ ∀ entry ∈ entries, entry.2.WellFormed := by
  refine ⟨?_, document.readEntries_of_wellFormed⟩
  rintro ⟨result, read⟩
  rcases exists_first_malformed entries with
    all | ⟨before, name, value, rest, fault, rfl, front, first⟩
  · exact all
  · cases read.symm.trans (document.readEntries_of_malformed front first)

theorem readEntries_eq_error_iff (document : Document) (entries : List (String × Json))
    (fault : Fault)
    : document.readEntries entries = .error fault
      ↔ ∃ before name value rest violation,
          entries = before ++ (name, value) :: rest
          ∧ (∀ entry ∈ before, entry.2.WellFormed)
          ∧ (value.violations []).head? = some violation
          ∧ fault = .definition name violation := by
  constructor
  · intro failed
    rcases exists_first_malformed entries with
      all | ⟨before, name, value, rest, violation, rfl, front, first⟩
    · obtain ⟨result, read⟩ := document.readEntries_of_wellFormed all
      cases read.symm.trans failed
    · cases failed.symm.trans (document.readEntries_of_malformed front first)
      exact ⟨before, name, value, rest, violation, rfl, front, first, rfl⟩
  · rintro ⟨before, name, value, rest, violation, rfl, front, first, rfl⟩
    exact document.readEntries_of_malformed front first

/-- Entries under new names are added in order, each as what its value says. -/
theorem definitions_of_readEntries {document result : Document}
    {entries : List (String × Json)} (read : document.readEntries entries = .ok result)
    (distinct : (document.names ++ Entries.names entries).Nodup)
    : result.definitions
      = document.definitions ++ entries.map fun (name, value) => (name, value.definition) := by
  induction entries generalizing document with
  | nil =>
      cases read
      simp
  | cons entry rest ih =>
      obtain ⟨name, value⟩ := entry
      unfold readEntries at read
      cases one : Definition.ofJson value with
      | error fault =>
          rw [one] at read
          cases read
      | ok definition =>
          rw [one] at read
          obtain ⟨-, rfl⟩ := Definition.ofJson_eq_ok_iff.mp one
          have fresh : name ∉ document.names := by
            intro known
            exact (List.nodup_append.mp distinct).2.2 name known name (.head _) rfl
          have added : (document.insert name value.definition).definitions
              = document.definitions ++ [(name, value.definition)] :=
            Entries.put_of_not_mem fresh value.definition
          have stillDistinct : ((document.insert name value.definition).names
              ++ Entries.names rest).Nodup := by
            unfold names at distinct ⊢
            rw [added]
            simpa [Entries.names] using distinct
          rw [ih read stillDistinct, added]
          simp

theorem ofJson_of_selected {root : Json} {entries : List (String × Json)}
    (selected : (root.get? "definitions").or (root.get? "$defs") = some (.object entries))
    : ofJson root = empty.readEntries entries := by
  have chosen : (keys.findSome? fun key => root.get? key) = some (.object entries) := by
    rw [← selected]
    cases found : root.get? "definitions" with
    | none => cases other : root.get? "$defs" <;> simp [keys, found, other]
    | some value => simp [keys, found]
  unfold ofJson
  rw [chosen]

end Document

/-- A definition can be read exactly from the well-formed values, and from every other value
reading gives the first of its violations. A document can be read exactly when all of its
entries are well formed. It then has their names in order, each with what the value says, the
property names in order too; otherwise the first malformed entry is named with its first
violation.
-/
theorem Document.ofJson_exactly_wellFormed
    : (∀ value, (∃ definition, Definition.ofJson value = .ok definition) ↔ value.WellFormed)
      ∧ (∀ value fault,
          Definition.ofJson value = .error fault
          ↔ (value.violations []).head? = some fault)
      ∧ ∀ root entries,
          (root.get? "definitions").or (root.get? "$defs") = some (.object entries)
          → ((∃ document, Document.ofJson root = .ok document)
              ↔ ∀ entry ∈ entries, entry.2.WellFormed)
            ∧ (∀ document,
                Document.ofJson root = .ok document
                → (Entries.names entries).Nodup
                → (document.definitions
                    = entries.map fun (name, value) => (name, value.definition))
                  ∧ document.names = Entries.names entries
                  ∧ ∀ name value,
                      (name, value) ∈ entries
                      → ∃ definition,
                          document.get? name = some definition
                          ∧ definition.properties
                            = (value.get? "properties").map Json.keys)
            ∧ ∀ fault,
                Document.ofJson root = .error fault
                ↔ ∃ before name value rest violation,
                    entries = before ++ (name, value) :: rest
                    ∧ (∀ entry ∈ before, entry.2.WellFormed)
                    ∧ (value.violations []).head? = some violation
                    ∧ fault = .definition name violation := by
  refine ⟨?_, fun value fault => Definition.ofJson_eq_error_iff, ?_⟩
  · intro value
    constructor
    · rintro ⟨definition, read⟩
      exact (Definition.ofJson_eq_ok_iff.mp read).1
    · intro wellFormed
      exact ⟨value.definition, Definition.ofJson_of_wellFormed wellFormed⟩
  · intro root entries selected
    rw [Document.ofJson_of_selected selected]
    refine ⟨Document.readEntries_eq_ok_iff .empty entries, ?_,
      Document.readEntries_eq_error_iff .empty entries⟩
    intro document read distinct
    have definitions : document.definitions
        = entries.map fun (name, value) => (name, value.definition) :=
      Document.definitions_of_readEntries read distinct
    refine ⟨definitions, ?_, ?_⟩
    · simp [Document.names, Entries.names, definitions]
    · intro name value among
      refine ⟨value.definition, ?_, by rw [Json.definition_eq]⟩
      rw [Document.get?_eq_some_iff, definitions]
      exact List.mem_map_of_mem among

/-- The second of two definitions is malformed in depth: its first member has a pointer, so that
what stands beside it does not count, and its second nests one without a proper description. Its
properties are wrong too, but not first.
-/
def nestedFault : List (String × Json) :=
  [("A", .object [("properties", .object [("y", .null), ("x", .null)])]),
    ("B",
      .object
        [("allOf",
          .array
            [.object [("allOf", .null), ("$ref", .string "#")],
              .object
                [("allOf", .array [.object [("description", .null), ("properties", .null)]])]])]),
    ("C", .null)]

theorem Document.ofJson_exactly_wellFormed_nestedFault
    : Document.ofJson (.object [("definitions", .object nestedFault)])
        = .error (.definition "B"
            ⟨["allOf", "1", "allOf", "0", "description"], .string, .null⟩)
      ∧ (∃ document,
          Document.ofJson (.object [("$defs", .object (nestedFault.take 1))]) = .ok document
          ∧ document.names = ["A"]
          ∧ ∃ definition,
              document.get? "A" = some definition ∧ definition.properties = some ["y", "x"]) := by
  obtain ⟨-, -, documents⟩ := Document.ofJson_exactly_wellFormed
  have front : ∀ entry ∈ nestedFault.take 1, entry.2.WellFormed := by
    intro entry among
    cases List.mem_singleton.mp among
    rw [← Json.violations_eq_nil_iff []]
    decide +kernel
  constructor
  · obtain ⟨-, -, failure⟩ := documents (.object [("definitions", .object nestedFault)])
      nestedFault rfl
    refine (failure _).mpr ⟨nestedFault.take 1, "B", _, nestedFault.drop 2, _, rfl, front, ?_, rfl⟩
    decide +kernel
  · obtain ⟨success, content, -⟩ := documents
      (.object [("$defs", .object (nestedFault.take 1))]) (nestedFault.take 1) rfl
    obtain ⟨document, read⟩ := success.mpr front
    obtain ⟨-, names, properties⟩ := content document read (by decide)
    exact ⟨document, read, names, properties "A" _ (.head _)⟩

end RecordSmith
