import RecordSmith.Checksum.Basic
import RecordSmith.Drift.Compaction
import RecordSmith.Text.Lines

/-! Reports on how a stored text differs from a generated one. -/

namespace RecordSmith.Drift

/-- The checksums of both texts and the lines that changed. -/
structure Report where
  stored : Checksum
  generated : Checksum
  changes : List String
deriving Repr, DecidableEq

/-- The edit script between the lines of two texts. -/
def script (stored generated : String) : List Edit :=
  settle [] [] (compact (compare (Text.fullLines stored) (Text.fullLines generated)))

/-- The line without the line feeds that end it. -/
def dropLineFeeds (line : String) : String :=
  String.ofList (line.toList.reverse.dropWhile (· = '\n')).reverse

/-- A changed line as reports show it: a sign, then the line. Kept lines are not shown. -/
def Edit.shown? (edit : Edit) : Option String :=
  match edit.change with
  | .keep => none
  | .drop => some ("-" ++ dropLineFeeds edit.line)
  | .add => some ("+" ++ dropLineFeeds edit.line)

/-- Compares a stored text with a generated one. -/
def report (stored generated : String) : Report :=
  let storedSum := Checksum.ofText stored
  let generatedSum := Checksum.ofText generated
  { stored := storedSum
    generated := generatedSum
    changes :=
      if storedSum = generatedSum then [] else (script stored generated).filterMap Edit.shown? }

/-- The two texts have the same checksum. -/
def Report.inSync (report : Report) : Bool :=
  report.stored = report.generated

end RecordSmith.Drift
