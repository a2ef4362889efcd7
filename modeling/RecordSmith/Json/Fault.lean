import RecordSmith.Text.Parsed

/-! What can be wrong with a JSON text, and where. -/

namespace RecordSmith.Json

open RecordSmith.Text

/-- What can be wrong with a text. -/
inductive Problem where
  | endInValue
  | endInList
  | endInObject
  | endInString
  | expectedValue
  | expectedWord
  | expectedListEnd
  | expectedObjectEnd
  | expectedColon
  | keyNotString
  | trailingComma
  | trailingCharacters
  | controlCharacter
  | invalidEscape
  | loneSurrogate
  | unfinishedSurrogate
  | invalidNumber
  | numberOutOfRange
  | tooDeep
deriving Repr, DecidableEq

/-- The problem as messages name it. -/
def Problem.phrase : Problem → String
  | .endInValue => "EOF while parsing a value"
  | .endInList => "EOF while parsing a list"
  | .endInObject => "EOF while parsing an object"
  | .endInString => "EOF while parsing a string"
  | .expectedValue => "expected value"
  | .expectedWord => "expected ident"
  | .expectedListEnd => "expected `,` or `]`"
  | .expectedObjectEnd => "expected `,` or `\x7d`"
  | .expectedColon => "expected `:`"
  | .keyNotString => "key must be a string"
  | .trailingComma => "trailing comma"
  | .trailingCharacters => "trailing characters"
  | .controlCharacter => "control character (\\u0000-\\u001F) found while parsing a string"
  | .invalidEscape => "invalid escape"
  | .loneSurrogate => "lone leading surrogate in hex escape"
  | .unfinishedSurrogate => "unexpected end of hex escape"
  | .invalidNumber => "invalid number"
  | .numberOutOfRange => "number out of range"
  | .tooDeep => "recursion limit exceeded"

/-- A problem where reading stopped: the rest of the text there, and how many bytes of this
rest were looked at.
-/
structure Fault where
  problem : Problem
  rest : List Char
  lookedAt : Nat

/-- A problem at the end of the text. -/
def Fault.atEnd (problem : Problem) : Fault :=
  ⟨problem, [], 0⟩

/-- A problem with the next byte. -/
def Fault.atNext (problem : Problem) (rest : List Char) : Fault :=
  ⟨problem, rest, 1⟩

/-- A problem before the next byte. -/
def Fault.before (problem : Problem) (rest : List Char) : Fault :=
  ⟨problem, rest, 0⟩

/-- A line, counted from one, and the number of bytes into it. -/
structure Place where
  line : Nat
  column : Nat
deriving Repr, DecidableEq

/-- The place after the given number of bytes of a text that starts at a place. -/
def Place.advance (place : Place) : Nat → List Char → Place
  | 0, _ => place
  | _, [] => place
  | bytes + 1, c :: rest =>
      if c = '\n' then Place.advance ⟨place.line + 1, 0⟩ bytes rest
      else
        Place.advance ⟨place.line, place.column + min (bytes + 1) c.utf8Size⟩
          (bytes + 1 - c.utf8Size) rest

/-- A problem and its place. -/
structure ReadError where
  problem : Problem
  place : Place
deriving Repr, DecidableEq

/-- The error as messages give it. -/
def ReadError.message (error : ReadError) : String :=
  error.problem.phrase ++ " at line " ++ toString error.place.line ++ " column "
    ++ toString error.place.column

/-- The place of a fault in the whole text. -/
def Fault.locate (text : List Char) (fault : Fault) : ReadError :=
  let bytes := utf8Length text - utf8Length fault.rest + fault.lookedAt
  ⟨fault.problem, Place.advance ⟨1, 0⟩ bytes text⟩

end RecordSmith.Json
