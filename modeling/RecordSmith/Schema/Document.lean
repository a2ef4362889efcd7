import RecordSmith.Schema.DefinitionReader

/-! Documents: the named definitions of a schema, in order and with distinct names. -/

namespace RecordSmith

/-- The definitions of a schema in document order. -/
structure Document where
  definitions : List (String × Definition)
  distinct : (Entries.names definitions).Nodup

namespace Document

/-- The document without definitions. -/
def empty : Document :=
  ⟨[], by simp [Entries.names]⟩

/-- Sets a definition; a name that is there keeps its place. -/
def insert (document : Document) (name : String) (definition : Definition) : Document :=
  ⟨Entries.put name definition document.definitions, Entries.nodup_names_put document.distinct⟩

/-- The names of the definitions in document order. -/
def names (document : Document) : List String :=
  Entries.names document.definitions

/-- The definition of the given name. -/
def get? (document : Document) (name : String) : Option Definition :=
  Entries.find? name document.definitions

/-- The number of definitions. -/
def size (document : Document) : Nat :=
  document.definitions.length

/-- A name with a definition is among the document's names. -/
theorem mem_names_of_get? {document : Document} {name : String} {definition : Definition}
    (h : document.get? name = some definition)
    : name ∈ document.names := by
  unfold names
  rw [← Entries.find?_isSome_iff]
  unfold get? at h
  simp [h]

theorem get?_eq_some_iff {document : Document} {name : String} {definition : Definition}
    : document.get? name = some definition ↔ (name, definition) ∈ document.definitions :=
  Entries.find?_eq_some_iff document.distinct

/-- Why a JSON value is no document. -/
inductive Fault where
  | notObject (found : Json.Kind)
  | definition (name : String) (fault : Malformed)
deriving Repr, DecidableEq

/-- The root keys that hold definitions, in the order they are looked for. -/
def keys : List String :=
  ["definitions", "$defs"]

/-- Adds the entries of a definitions object in order, up to the first malformed one. -/
def readEntries (document : Document) : List (String × Json) → Except Fault Document
  | [] => .ok document
  | (name, value) :: rest =>
      match Definition.ofJson value with
      | .error fault => .error (.definition name fault)
      | .ok definition => readEntries (document.insert name definition) rest

/-- Reads a document from a root value. The first root key that is there decides; without
one the document is empty.
-/
def ofJson (root : Json) : Except Fault Document :=
  match keys.findSome? fun key => root.get? key with
  | none => .ok empty
  | some (.object entries) => readEntries empty entries
  | some other => .error (.notObject other.kind)

end Document

end RecordSmith
