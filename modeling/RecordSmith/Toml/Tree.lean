import RecordSmith.Entries
import RecordSmith.Toml.Basic

/-! Tables under construction. Tables remember how they came about, because that decides
whether they may be added to.
-/

namespace RecordSmith.Toml

/-- How a table came about: by its own header, on the way to another header, or by a dotted
key.
-/
inductive Form where
  | header
  | passing
  | dotted
deriving Repr, DecidableEq

/-- A part of a document under construction. -/
inductive Part where
  | value (toml : Toml)
  | table (form : Form) (entries : List (String × Part))
  | tables (earlier : List (List (String × Part))) (last : List (String × Part))

/-- The entries of a table under construction. -/
abbrev Parts := List (String × Part)

/-- Adds a value under a dotted key. A key may not be there before, and dotted keys may pass
only through tables without a header. The flag tells whether the entries belong to the table
whose keys are read, or to one made by dotted keys.
-/
def addValue (own : Bool) (key : String) (value : Toml) : List String → Parts → Option Parts
  | [], entries =>
      if own && (Entries.find? key entries).isNone then
        some (entries ++ [(key, .value value)])
      else none
  | name :: path, entries =>
      match Entries.find? name entries with
      | none => do
          let inner ← addValue true key value path []
          return Entries.put name (.table .dotted inner) entries
      | some (.table .dotted inner) => do
          let inner ← addValue true key value path inner
          return Entries.put name (.table .dotted inner) entries
      | some (.table .passing inner) => do
          let inner ← addValue false key value path inner
          return Entries.put name (.table .passing inner) entries
      | some (.tables earlier last) => do
          let last ← addValue false key value path last
          return Entries.put name (.tables earlier last) entries
      | some (.table .header _) => none
      | some (.value _) => none

/-- Changes the entries that a path of headers leads to, making the tables on the way. -/
def alter (change : Parts → Option Parts) : List String → Parts → Option Parts
  | [], entries => change entries
  | name :: path, entries =>
      match Entries.find? name entries with
      | none => do
          let inner ← alter change path []
          return Entries.put name (.table .passing inner) entries
      | some (.table form inner) => do
          let inner ← alter change path inner
          return Entries.put name (.table form inner) entries
      | some (.tables earlier last) => do
          let last ← alter change path last
          return Entries.put name (.tables earlier last) entries
      | some (.value _) => none

/-- A header opens a table that is not there, or was only passed on the way to another. The
table comes to stand last.
-/
def openTable (name : String) (entries : Parts) : Option Parts :=
  match Entries.find? name entries with
  | none => some (entries ++ [(name, .table .header [])])
  | some (.table .passing inner) =>
      some (entries.filter (·.1 ≠ name) ++ [(name, .table .header inner)])
  | some _ => none

/-- A double header adds a table to a list of tables. -/
def openNext (name : String) (entries : Parts) : Option Parts :=
  match Entries.find? name entries with
  | none => some (entries ++ [(name, .tables [] [])])
  | some (.tables earlier last) =>
      some (Entries.put name (.tables (earlier ++ [last]) []) entries)
  | some _ => none

/-- Adds a value to the table or the last of the tables that a header opened. -/
def addInside (path : List String) (key : String) (value : Toml) (name : String)
    (entries : Parts)
    : Option Parts :=
  match Entries.find? name entries with
  | some (.table form inner) => do
      let inner ← addValue true key value path inner
      return Entries.put name (.table form inner) entries
  | some (.tables earlier last) => do
      let last ← addValue true key value path last
      return Entries.put name (.tables earlier last) entries
  | _ => none

mutual

/-- A part as a value. -/
def Part.toToml : Part → Toml
  | .value toml => toml
  | .table _ entries => .table (partsToToml entries)
  | .tables earlier last => .array (tablesToToml earlier ++ [.table (partsToToml last)])

/-- The entries of a table as values. -/
def partsToToml : List (String × Part) → List (String × Toml)
  | [] => []
  | (name, part) :: rest => (name, part.toToml) :: partsToToml rest

/-- Each table of a list as a value. -/
def tablesToToml : List (List (String × Part)) → List Toml
  | [] => []
  | entries :: rest => .table (partsToToml entries) :: tablesToToml rest

end

end RecordSmith.Toml
