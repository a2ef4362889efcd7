import RecordSmith.Schema.DefinitionReader

/-! The grammar of definitions, apart from their reader: which JSON values are well formed, all
that is wrong with one that is not, in reading order, and what a value says as a definition.
-/

namespace RecordSmith

open RecordSmith.Json (Kind)

-----------------------------------------------------------------------------------------
-- Parts of values
-----------------------------------------------------------------------------------------

namespace Json

/-- The text of a string; other values have none. -/
def text? : Json → Option String
  | .string text => some text
  | _ => none

/-- The keys of an object in order; other values have none. -/
def keys : Json → List String
  | .object members => Entries.names members
  | _ => []

/-- The items of an array; other values have none. -/
def items : Json → List Json
  | .array items => items
  | _ => []

theorem sizeOf_items (value : Json) : sizeOf value.items ≤ sizeOf value := by
  cases value <;> simp [items]

theorem sizeOf_get? {key : String} {value held : Json} (found : value.get? key = some held)
    : sizeOf held < sizeOf value := by
  cases value with
  | object members =>
      have := Entries.sizeOf_find? found
      simp only [object.sizeOf_spec]
      omega
  | null | bool | number | string | array => cases found

/-- The items of an array that a value holds are smaller than the value. -/
theorem sizeOf_items_lt {key : String} {value held : Json}
    (found : value.get? key = some held)
    : sizeOf held.items < sizeOf value :=
  Nat.lt_of_le_of_lt held.sizeOf_items (sizeOf_get? found)

end Json

-----------------------------------------------------------------------------------------
-- Well-formed values
-----------------------------------------------------------------------------------------

mutual

/-- The value is an object whose description is a string, whose properties are an object and
whose composition list is an array of well-formed members, each where it is there at all.
-/
inductive Json.WellFormed : Json → Prop where
  | intro {value : Json} (object : value.kind = .object)
      (description : ∀ held, value.get? "description" = some held → held.kind = .string)
      (properties : ∀ held, value.get? "properties" = some held → held.kind = .object)
      (list : ∀ held, value.get? "allOf" = some held → held.kind = .array)
      (members : ∀ held item,
        value.get? "allOf" = some held → item ∈ held.items → item.WellFormedMember)
    : WellFormed value

/-- The value has a pointer that is a string, whatever else it holds, or it has no pointer and
is well formed itself.
-/
inductive Json.WellFormedMember : Json → Prop where
  | reference {value : Json} {pointer : String}
      (refers : value.get? "$ref" = some (.string pointer))
    : WellFormedMember value
  | fragment {value : Json} (plain : value.get? "$ref" = none)
      (wellFormed : value.WellFormed)
    : WellFormedMember value

end

-----------------------------------------------------------------------------------------
-- Violations
-----------------------------------------------------------------------------------------

/-- The violation of a value that is not of the expected kind. -/
def misfit (path : List String) (expected : Kind) (value : Json) : List Malformed :=
  if value.kind = expected then [] else [⟨path, expected, value.kind⟩]

theorem misfit_eq_nil_iff {path : List String} {expected : Kind} {value : Json}
    : misfit path expected value = [] ↔ value.kind = expected := by
  simp [misfit]

/-- The violation of a part that is there and not of the expected kind. -/
def partMisfit (path : List String) (key : String) (expected : Kind) (value : Json)
    : List Malformed :=
  (value.get? key).toList.flatMap (misfit (path ++ [key]) expected)

theorem partMisfit_eq_nil_iff {path : List String} {key : String} {expected : Kind}
    {value : Json}
    : partMisfit path key expected value = []
      ↔ ∀ held, value.get? key = some held → held.kind = expected := by
  simp [partMisfit, misfit_eq_nil_iff]

mutual

/-- All that is wrong with a value as a definition: its own kind, then the kinds of its parts,
then its composition list from left to right and in depth.
-/
def Json.violations (path : List String) (value : Json) : List Malformed :=
  misfit path .object value
    ++ partMisfit path "description" .string value
    ++ partMisfit path "properties" .object value
    ++ partMisfit path "allOf" .array value
    ++ match held : value.get? "allOf" with
      | none => []
      | some list =>
          have := Json.sizeOf_items_lt held
          Json.itemViolations (path ++ ["allOf"]) 0 list.items
termination_by 2 * sizeOf value

/-- All that is wrong with the items of a composition list, numbered from the given index. -/
def Json.itemViolations (path : List String) (index : Nat) : List Json → List Malformed
  | [] => []
  | item :: rest =>
      Json.memberViolations (path ++ [toString index]) item
        ++ Json.itemViolations path (index + 1) rest
termination_by items => 2 * sizeOf items

/-- All that is wrong with an item of a composition list. What stands beside a pointer is not
looked at.
-/
def Json.memberViolations (path : List String) (value : Json) : List Malformed :=
  match value.get? "$ref" with
  | some pointer => misfit (path ++ ["$ref"]) .string pointer
  | none => value.violations path
termination_by 2 * sizeOf value + 1

end

theorem Json.violations_eq (path : List String) (value : Json)
    : value.violations path
      = misfit path .object value
        ++ partMisfit path "description" .string value
        ++ partMisfit path "properties" .object value
        ++ partMisfit path "allOf" .array value
        ++ (value.get? "allOf").toList.flatMap fun list =>
            Json.itemViolations (path ++ ["allOf"]) 0 list.items := by
  rw [Json.violations]
  congr 1
  split
  · next missing => simp [missing]
  · next found => simp [found]

mutual

/-- Nothing is wrong with exactly the well-formed values, by induction over the nesting. -/
theorem Json.violations_eq_nil_iff (path : List String) (value : Json)
    : value.violations path = [] ↔ value.WellFormed := by
  rw [Json.violations_eq]
  simp only [List.append_eq_nil_iff, misfit_eq_nil_iff, partMisfit_eq_nil_iff,
    List.flatMap_eq_nil_iff, Option.mem_toList]
  constructor
  · rintro ⟨⟨⟨⟨object, description⟩, properties⟩, array⟩, nothing⟩
    refine .intro object description properties array ?_
    intro list item held among
    have smaller := Json.sizeOf_items_lt held
    exact (Json.itemViolations_eq_nil_iff _ 0 list.items).mp (nothing list held) item among
  · rintro ⟨object, description, properties, array, members⟩
    refine ⟨⟨⟨⟨object, description⟩, properties⟩, array⟩, ?_⟩
    intro list held
    have smaller := Json.sizeOf_items_lt held
    exact (Json.itemViolations_eq_nil_iff _ 0 list.items).mpr fun item among =>
      members list item held among
termination_by 2 * sizeOf value

theorem Json.itemViolations_eq_nil_iff (path : List String) (index : Nat) (items : List Json)
    : Json.itemViolations path index items = [] ↔ ∀ item ∈ items, item.WellFormedMember := by
  match items with
  | [] => simp [Json.itemViolations]
  | item :: rest =>
      rw [Json.itemViolations, List.append_eq_nil_iff,
        Json.memberViolations_eq_nil_iff (path ++ [toString index]) item,
        Json.itemViolations_eq_nil_iff path (index + 1) rest, List.forall_mem_cons]
termination_by 2 * sizeOf items

theorem Json.memberViolations_eq_nil_iff (path : List String) (value : Json)
    : Json.memberViolations path value = [] ↔ value.WellFormedMember := by
  rw [Json.memberViolations]
  split
  · next pointer refers =>
      rw [misfit_eq_nil_iff]
      constructor
      · intro string
        cases pointer <;> first | exact .reference refers | cases string
      · intro member
        cases member with
        | reference again =>
            cases refers.symm.trans again
            rfl
        | fragment plain _ => cases refers.symm.trans plain
  · next plain =>
      rw [Json.violations_eq_nil_iff path value]
      constructor
      · exact .fragment plain
      · intro member
        cases member with
        | reference refers => cases plain.symm.trans refers
        | fragment _ wellFormed => exact wellFormed
termination_by 2 * sizeOf value + 1

end

-----------------------------------------------------------------------------------------
-- What a value says
-----------------------------------------------------------------------------------------

mutual

/-- What a value says as a definition. Parts of the wrong kind say nothing. -/
def Json.definition (value : Json) : Definition :=
  { description := (value.get? "description").bind Json.text?
    properties := (value.get? "properties").map Json.keys
    composition :=
      match held : value.get? "allOf" with
      | none => none
      | some list =>
          have := Json.sizeOf_items_lt held
          some (Json.memberList list.items) }
termination_by 2 * sizeOf value

/-- What the items of a composition list say. -/
def Json.memberList : List Json → List Member
  | [] => []
  | item :: rest => item.member :: Json.memberList rest
termination_by items => 2 * sizeOf items

/-- What an item of a composition list says: a pointer makes it a reference. -/
def Json.member (value : Json) : Member :=
  match (value.get? "$ref").bind Json.text? with
  | some pointer => .reference ⟨pointer⟩
  | none => .inline value.definition
termination_by 2 * sizeOf value + 1

end

/-- The composition list of a value is what its items say. -/
theorem Json.definition_eq (value : Json)
    : value.definition
      = ⟨(value.get? "description").bind Json.text?, (value.get? "properties").map Json.keys,
          (value.get? "allOf").map fun list => Json.memberList list.items⟩ := by
  rw [Json.definition]
  congr 1
  split
  · next missing => simp only [missing, Option.map_none]
  · next found => simp only [found, Option.map_some]

end RecordSmith
