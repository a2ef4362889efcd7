import RecordSmith.Json.Reader
import RecordSmith.Schema.Document

/-! Documents from text, and what is told when a text gives none. -/

namespace RecordSmith

/-- Why a text gives no document. -/
inductive LoadError where
  | json (error : Json.ReadError)
  | document (fault : Document.Fault)
deriving Repr, DecidableEq

/-- The fault of a document as messages give it. -/
def Document.Fault.message : Document.Fault → String
  | .notObject found =>
      "Invalid schema document: definitions must be an object, found " ++ found.phrase
  | .definition name fault =>
      "Failed to generate definition `" ++ name ++ "`: " ++ fault.message

/-- The error as messages give it. -/
def LoadError.message : LoadError → String
  | .json error => "JSON error: " ++ error.message
  | .document fault => fault.message

/-- What lies behind the error, if it is not told by the error alone. -/
def LoadError.cause? : LoadError → Option String
  | .json error => some error.message
  | .document (.notObject _) => none
  | .document (.definition _ fault) => some fault.message

/-- Reads a document from JSON text. -/
def Document.ofText (text : String) : Except LoadError Document :=
  match Json.read text with
  | .error error => .error (.json error)
  | .ok root =>
      match Document.ofJson root with
      | .error fault => .error (.document fault)
      | .ok document => .ok document

end RecordSmith
