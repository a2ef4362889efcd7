import RecordSmith.Composition.Fields
import RecordSmith.Target.Rendering
import RecordSmith.Text.Blank
import RecordSmith.Text.SnakeCase

/-! Declarations: records ready to be written in any target, and their text in one. -/

namespace RecordSmith

/-- A record with its comment and its fields in order. -/
structure Declaration where
  name : String
  comment : List String
  fields : List String
deriving Repr, DecidableEq

/-- The list without the empty texts that end it. -/
def dropEmptyEnd (texts : List String) : List String :=
  (texts.reverse.dropWhile String.isEmpty).reverse

/-- The lines of a comment: no line ends in white space, and the last is not empty. -/
def commentLines (text : String) : List String :=
  dropEmptyEnd ((Text.lines text).map Text.trimEnd)

/-- The comment of a definition. -/
def Definition.comment (definition : Definition) : List String :=
  match definition.caption with
  | none => []
  | some text => commentLines text

/-- The declaration of a definition under a name, if it becomes a record. -/
def Definition.declaration? (document : Document) (name : String) (definition : Definition)
    : Option Declaration :=
  if definition.isRecord then
    some
      { name
        comment := definition.comment
        fields := keepFirst ((definition.fields document (some name)).map Text.snakeCase) }
  else none

/-- The declarations of a document, in document order. -/
def Document.declarations (document : Document) : List Declaration :=
  document.definitions.filterMap fun (name, definition) => definition.declaration? document name

/-- The field names that a target shows. Two fields that become one name are shown once. -/
def Declaration.shownFields (target : Target) (record : Declaration) : List String :=
  keepFirst (record.fields.map target.fieldName)

/-- The comment lines in a target. -/
def Declaration.shownComment (target : Target) (record : Declaration) : List String :=
  record.comment.map fun line => Text.trimEnd (target.comment line)

/-- The lines of a record in a target: its comment, then its declaration. -/
def Declaration.text (target : Target) (record : Declaration) : String :=
  Text.join "\n"
    (record.shownComment target ++ [target.declaration record.name (record.shownFields target)])

/-- The blocks of a text: the heading if there is one, then the records. -/
def blocks (target : Target) (records : List Declaration) : List String :=
  (target.heading?.map Text.trimEnd).toList ++ records.map (·.text target)

/-- The text of records: blocks with an empty line between them and a line feed at the end,
and nothing at all without records.
-/
def Target.code (target : Target) (records : List Declaration) : String :=
  if records.isEmpty then "" else Text.join "\n\n" (blocks target records) ++ "\n"

end RecordSmith
