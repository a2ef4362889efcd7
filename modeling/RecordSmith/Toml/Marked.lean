import RecordSmith.Toml.Basic
import RecordSmith.Toml.Moment

/-! Tables that stand for a moment: their first key is a mark, and the text under it is the
moment.
-/

namespace RecordSmith.Toml

/-- The key that marks a table as a moment. -/
def momentMark : String :=
  "$__toml_private_datetime"

/-- What is under the mark of a marked table. -/
def marked? : List (String × Toml) → Option Toml
  | (key, value) :: _ => if key = momentMark then some value else none
  | [] => none

/-- The moment that a marked table stands for. Only a text that is a moment to its end will
do.
-/
def momentOf? : Toml → Option Toml
  | .string text =>
      match readMoment? text.toList with
      | some (shown, []) => some (.moment shown)
      | _ => none
  | _ => none

mutual

/-- The value with each marked table replaced by its moment. What stands beside the mark is
not looked at.
-/
def settle? : Toml → Option Toml
  | .array items => (settleItems? items).map .array
  | .table entries =>
      match marked? entries with
      | some value => momentOf? value
      | none => (settleEntries? entries).map .table
  | .string value => some (.string value)
  | .integer value => some (.integer value)
  | .float value => some (.float value)
  | .boolean value => some (.boolean value)
  | .moment text => some (.moment text)

/-- Each item with its marked tables replaced. -/
def settleItems? : List Toml → Option (List Toml)
  | [] => some []
  | item :: rest => do
      let item ← settle? item
      let rest ← settleItems? rest
      return item :: rest

/-- Each entry with its marked tables replaced. -/
def settleEntries? : List (String × Toml) → Option (List (String × Toml))
  | [] => some []
  | (key, value) :: rest => do
      let value ← settle? value
      let rest ← settleEntries? rest
      return (key, value) :: rest

end

/-- The entries of a root table with their marked tables replaced. The root itself cannot stand
for a moment.
-/
def settleRoot? (entries : List (String × Toml)) : Option (List (String × Toml)) :=
  match marked? entries with
  | some _ => none
  | none => settleEntries? entries

end RecordSmith.Toml
