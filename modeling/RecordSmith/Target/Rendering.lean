import RecordSmith.Target.Basic
import RecordSmith.Target.Python
import RecordSmith.Target.Ruby

/-! What each target makes of comments, field names and declarations. -/

namespace RecordSmith.Target

/-- The block before the first declaration, where the target needs one. -/
def heading? : Target → Option String
  | .ruby => none
  | .python => some Python.heading

/-- The name of a field in the target. -/
def fieldName : Target → String → String
  | .ruby, field => field
  | .python, field => Python.identifier field

/-- A line of comment. -/
def comment (_ : Target) (text : String) : String :=
  if text.isEmpty then "#" else "# " ++ text

/-- The declaration of a record with the given fields. -/
def declaration : Target → String → List String → String
  | .ruby => Ruby.declaration
  | .python => Python.declaration

end RecordSmith.Target
