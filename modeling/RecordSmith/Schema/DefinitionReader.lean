import RecordSmith.Schema.Definition
import RecordSmith.Schema.Malformed

/-! Reading definitions from JSON values. The first violation in reading order is reported
with its path inside the definition.
-/

namespace RecordSmith

/-- Reads a description, which is a string. -/
def readDescription (path : List String) : Option Json → Except Malformed (Option String)
  | none => .ok none
  | some (.string text) => .ok (some text)
  | some other => .error ⟨path ++ ["description"], .string, other.kind⟩

/-- Reads the property names, the keys of an object. -/
def readProperties (path : List String) : Option Json → Except Malformed (Option (List String))
  | none => .ok none
  | some (.object members) => .ok (some (Entries.names members))
  | some other => .error ⟨path ++ ["properties"], .object, other.kind⟩

/-- The items of an array that an object holds are smaller than the object. -/
theorem sizeOf_held {key : String} {members : List (String × Json)} {items : List Json}
    (h : Entries.find? key members = some (.array items))
    : sizeOf items < 1 + sizeOf members := by
  have := Entries.sizeOf_find? h
  simp at this
  omega

mutual

/-- Reads a definition at a path: description, property names, then the composition list. -/
def Definition.readAt (path : List String) (value : Json) : Except Malformed Definition :=
  match value with
  | .object members => do
      let description ← readDescription path (Entries.find? "description" members)
      let properties ← readProperties path (Entries.find? "properties" members)
      let composition ←
        match held : Entries.find? "allOf" members with
        | none => .ok none
        | some (.array items) =>
            have := sizeOf_held held
            match Member.readAll (path ++ ["allOf"]) 0 items with
            | .ok composition => .ok (some composition)
            | .error fault => .error fault
        | some other => .error ⟨path ++ ["allOf"], .array, other.kind⟩
      return ⟨description, properties, composition⟩
  | other => .error ⟨path, .object, other.kind⟩
termination_by 2 * sizeOf value

/-- Reads the items of a composition list, numbered from the given index. -/
def Member.readAll (path : List String) (index : Nat)
    : List Json → Except Malformed (List Member)
  | [] => .ok []
  | item :: rest => do
      let member ← Member.readAt (path ++ [toString index]) item
      let members ← Member.readAll path (index + 1) rest
      return member :: members
termination_by items => 2 * sizeOf items

/-- Reads an item of a composition list: a reference if it has a pointer, whatever else it
holds, and a fragment otherwise.
-/
def Member.readAt (path : List String) (value : Json) : Except Malformed Member :=
  match value with
  | .object members =>
      match Entries.find? "$ref" members with
      | some (.string pointer) => .ok (.reference ⟨pointer⟩)
      | some other => .error ⟨path ++ ["$ref"], .string, other.kind⟩
      | none => do
          let fragment ← Definition.readAt path (.object members)
          return .inline fragment
  | other => .error ⟨path, .object, other.kind⟩
termination_by 2 * sizeOf value + 1

end

/-- Reads a definition. -/
def Definition.ofJson (value : Json) : Except Malformed Definition :=
  Definition.readAt [] value

end RecordSmith
