import RecordSmith.Checksum.Basic
import RecordSmith.Declaration

/-! The generated text of a document, and the log of its making. -/

namespace RecordSmith

/-- Generated code with what is told about it. -/
structure Output where
  code : String
  recordCount : Nat
  skipped : List String
  checksum : Checksum
deriving Repr, DecidableEq

/-- The names of the definitions that become no record. -/
def Document.skipped (document : Document) : List String :=
  Entries.names (document.definitions.filter fun (_, definition) => !definition.isRecord)

/-- Writes the records of a document in a target. -/
def generate (document : Document) (target : Target) : Output :=
  let records := document.declarations
  let code := target.code records
  { code
    recordCount := records.length
    skipped := document.skipped
    checksum := Checksum.ofText code }

/-- What is worth telling about the making of an output. -/
inductive Event where
  | skipped (definition : String)
  | foreignReference (pointer : String)
  | unknownReference (pointer : String)
  | cycle (definition : String)
  | generated (target : Target) (records skipped : Nat) (checksum : Checksum)
deriving Repr, DecidableEq

/-- How important an event is. -/
inductive Severity where
  | trace
  | debug
  | info
  | warn
deriving Repr, DecidableEq

/-- The word for a severity. -/
def Severity.name : Severity → String
  | .trace => "TRACE"
  | .debug => "DEBUG"
  | .info => "INFO"
  | .warn => "WARN"

/-- How important an event is. -/
def Event.severity : Event → Severity
  | .skipped _ => .trace
  | .foreignReference _ => .debug
  | .unknownReference _ => .debug
  | .cycle _ => .warn
  | .generated .. => .info

/-- The text of an event. -/
def Event.message : Event → String
  | .skipped _ => "no properties or allOf, skipping"
  | .foreignReference _ => "ignoring non-local reference"
  | .unknownReference _ => "ignoring reference to unknown definition"
  | .cycle _ => "reference cycle, not expanding again"
  | .generated .. => "generated records"

/-- The event of a step of the walk; properties are not told. -/
def Step.event? : Step → Option Event
  | .property _ => none
  | .foreign pointer => some (.foreignReference pointer)
  | .unknown pointer => some (.unknownReference pointer)
  | .cycle name => some (.cycle name)

/-- The events of compiling a definition. -/
def Definition.events (document : Document) (name : String) (definition : Definition)
    : List Event :=
  if definition.isRecord then
    (definition.walk document (seedChain (some name))).filterMap Step.event?
  else [.skipped name]

/-- The events of generating an output, in order. -/
def Document.events (document : Document) (target : Target) : List Event :=
  let output := generate document target
  (document.definitions.flatMap fun (name, definition) => definition.events document name)
    ++ [.generated target output.recordCount output.skipped.length output.checksum]

end RecordSmith
