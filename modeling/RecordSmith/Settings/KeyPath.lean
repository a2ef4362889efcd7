import RecordSmith.Settings.Setting
import RecordSmith.Text.Digit

/-! Keys that lead into tables and lists, such as a table's name, a dot and a key of it. -/

namespace RecordSmith

/-- A step into a table or a list. A negative index counts from the end. -/
inductive KeyStep where
  | child (key : String)
  | item (index : Int)
deriving Repr, DecidableEq

/-- A key of the root table and the steps from there. -/
structure KeyPath where
  root : String
  steps : List KeyStep
deriving Repr, DecidableEq

namespace KeyPath

/-- A character of a key in a path. -/
def isNameChar (c : Char) : Bool :=
  c.isAlphanum || c = ' ' || c = '_' || c = '-'

/-- A blank around an index. -/
def isIndexSpace (c : Char) : Bool :=
  c = ' ' || c = '\t'

/-- Reads an index after its opening bracket. -/
def readIndex? (cs : List Char) : Option (Int × List Char) :=
  let body := cs.dropWhile isIndexSpace
  let negative := body.head? = some '-'
  let digits := if negative then body.tail else body
  let value := Text.numberValue 10 (digits.takeWhile Char.isDigit)
  if (digits.takeWhile Char.isDigit).isEmpty || value ≥ Decimal.twoTo 63 then none
  else
    match (digits.dropWhile Char.isDigit).dropWhile isIndexSpace with
    | ']' :: rest => some (if negative then -value else value, rest)
    | _ => none

/-- Reads the steps of a path, at most the given number. -/
def readSteps? : Nat → List Char → Option (List KeyStep)
  | _, [] => some []
  | 0, _ => none
  | count + 1, '.' :: rest =>
      let name := rest.takeWhile isNameChar
      if name.isEmpty then none
      else
        (readSteps? count (rest.dropWhile isNameChar)).map (.child (String.ofList name) :: ·)
  | count + 1, '[' :: rest => do
      let (index, rest) ← readIndex? rest
      let steps ← readSteps? count rest
      return .item index :: steps
  | _, _ => none

/-- Reads a key as a path. A key that is no path stands for itself. -/
def read (key : String) : KeyPath :=
  let cs := key.toList
  let name := cs.takeWhile isNameChar
  match readSteps? cs.length (cs.dropWhile isNameChar) with
  | some steps => if name.isEmpty then ⟨key, []⟩ else ⟨String.ofList name, steps⟩
  | none => ⟨key, []⟩

/-- The items of a list; other settings have none. -/
def itemsOf : Setting → List Setting
  | .list _ items => items
  | _ => []

/-- A list with other items; any other setting gives way to a list. -/
def withItems (items : List Setting) : Setting → Setting
  | .list origin _ => .list origin items
  | _ => .list none items

/-- The place of an index in a list of the given length. -/
def place (index : Int) (length : Nat) : Nat :=
  if 0 ≤ index then index.toNat else (length + index).toNat

/-- Changes the item at a place; a list that is too short is filled up. -/
def alterItem (change : Setting → Setting) (index : Nat) (items : List Setting) : List Setting :=
  let filled := items ++ List.replicate (index + 1 - items.length) .nothing
  filled.modify index change

/-- Sets what the steps lead to, making tables and lists on the way. -/
def setSteps (value : Setting) (key : String) : List KeyStep → List (String × Setting)
    → List (String × Setting)
  | [], held => Setting.assign key value held
  | steps, held =>
      let name := Text.lowerCase key
      let target := (Entries.find? name held).getD .nothing
      Entries.put name (follow value steps target) held
where
  /-- Follows the steps from a setting and sets what they lead to. -/
  follow (value : Setting) : List KeyStep → Setting → Setting
    | [], target => target
    | [.child key], target => target.withEntries (Setting.assign key value target.entries)
    | [.item index], target =>
        let items := itemsOf target
        withItems (alterItem (fun _ => value) (place index items.length) items) target
    | .child key :: rest, target =>
        let name := Text.lowerCase key
        let inner := (Entries.find? name target.entries).getD .nothing
        target.withEntries (Entries.put name (follow value rest inner) target.entries)
    | .item index :: rest, target =>
        let items := itemsOf target
        withItems (alterItem (follow value rest) (place index items.length) items) target

/-- Sets what a path leads to in the root table. -/
def set (path : KeyPath) (value : Setting) (held : List (String × Setting))
    : List (String × Setting) :=
  setSteps value path.root path.steps held

end KeyPath

/-- Lays the entries of a source over those of the sources below it. -/
def Setting.overlay (held incoming : List (String × Setting)) : List (String × Setting) :=
  incoming.foldl (fun held (key, value) => (KeyPath.read key).set value held) held

end RecordSmith
