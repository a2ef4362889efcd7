/-! References to definitions, and the names they point at. -/

namespace RecordSmith

/-- A reference as written in a schema. -/
structure Reference where
  pointer : String
deriving Repr, DecidableEq

namespace Reference

/-- Replaces each occurrence of two neighbouring characters by one, from left to right. -/
def replacePair (first second replacement : Char) : List Char → List Char
  | a :: b :: rest =>
      if a = first && b = second then replacement :: replacePair first second replacement rest
      else a :: replacePair first second replacement (b :: rest)
  | short => short

/-- Undoes the escapes of a pointer segment: first those of slashes, then those of tildes. -/
def unescape (segment : List Char) : List Char :=
  replacePair '~' '0' '~' (replacePair '~' '1' '/' segment)

/-- The places where a document keeps its definitions, as pointers end before a name. -/
def roots : List String :=
  ["#/definitions/", "#/$defs/"]

/-- What follows the first of the roots that the pointer begins with. -/
def segment? (pointer : List Char) : Option (List Char) :=
  roots.findSome? fun root => root.toList.isPrefixOf? pointer

/-- The name of the definition that the pointer names, if it names one of its own document.
Pointers into other documents or below a definition name none.
-/
def target? (ref : Reference) : Option String :=
  match segment? ref.pointer.toList with
  | none => none
  | some segment =>
      if segment.isEmpty || segment.contains '/' then none
      else some (String.ofList (unescape segment))

end Reference

end RecordSmith
