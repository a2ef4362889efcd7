import RecordSmith.Json.Basic
import RecordSmith.Text.Lines

/-! Values of the wrong kind in definitions. -/

namespace RecordSmith

open RecordSmith.Json (Kind)

/-- A value of the wrong kind, and the path that leads to it from the definition. -/
structure Malformed where
  path : List String
  expected : Kind
  found : Kind
deriving Repr, DecidableEq

/-- The path as messages give it. -/
def Malformed.pathText (fault : Malformed) : String :=
  "/" ++ Text.join "/" fault.path

/-- The violation as messages give it. -/
def Malformed.message (fault : Malformed) : String :=
  "expected " ++ fault.expected.phrase ++ " at `" ++ fault.pathText ++ "`, found "
    ++ fault.found.phrase

end RecordSmith
