import RecordSmith.Text.LowerCase

/-! The languages that records are written in. -/

namespace RecordSmith

/-- A language for records. -/
inductive Target where
  | ruby
  | python
deriving Repr, DecidableEq, Inhabited

namespace Target

/-- The target that is used when none is chosen. -/
def default : Target :=
  .ruby

/-- The name by which a target is chosen and shown. -/
def name : Target → String
  | .ruby => "ruby"
  | .python => "python"

/-- All targets. -/
def all : List Target :=
  [.ruby, .python]

/-- The target of exactly this name. -/
def ofName? (text : String) : Option Target :=
  all.find? (·.name = text)

/-- The target of this name, where the letters A to Z may be of either case. -/
def ofNameAsciiCase? (text : String) : Option Target :=
  all.find? (·.name.toList.map Char.toLower = text.toList.map Char.toLower)

/-- The target of this name, where letters of every script may be of either case. -/
def ofNameAnyCase? (text : String) : Option Target :=
  all.find? (·.name = Text.lowerCase text)

end Target

end RecordSmith
