import RecordSmith.Json.NumberReader
import RecordSmith.Json.StringReader

/-! Reading JSON text. A text that is no JSON is refused with the first problem and its place.
Among members with the same key the last value counts, at the place of the first.
-/

namespace RecordSmith.Json

open RecordSmith.Text

-----------------------------------------------------------------------------------------
-- Blanks and words
-----------------------------------------------------------------------------------------

/-- The characters that may stand between the tokens of a text. -/
def isSpace (c : Char) : Bool :=
  c = ' ' || c = '\t' || c = '\n' || c = '\r'

/-- The text without the blanks in front. -/
def skipSpace (cs : List Char) : List Char :=
  cs.dropWhile isSpace

/-- Skipping blanks never lengthens a text. -/
theorem length_skipSpace (cs : List Char)
    : (skipSpace cs).length ≤ cs.length :=
  length_dropWhile_le isSpace cs

/-- Reads the remaining letters of a fixed word. -/
def readWord {α : Type} (limit : Nat) (value : α)
    : (word cs : List Char) → cs.length < limit → Except Fault (Parsed α limit)
  | [], cs, h => .ok ⟨value, cs, h⟩
  | _ :: _, [], _ => .error (.atEnd .endInValue)
  | w :: word, c :: rest, h =>
      if w = c then readWord limit value word rest (by simp at h; omega)
      else .error (.atNext .expectedWord (c :: rest))

-----------------------------------------------------------------------------------------
-- Values
-----------------------------------------------------------------------------------------

mutual

/-- Reads a value. The room is the number of arrays and objects that may still be open, this
value's own included, plus one.
-/
def readValue (room : Nat) (cs : List Char) : Except Fault (Parsed Json cs.length) :=
  have blanks := length_skipSpace cs
  match skipSpace cs, blanks with
  | [], _ => .error (.atEnd .endInValue)
  | c :: rest, blanks =>
      have fits : rest.length < cs.length := blanks
      match c with
      | 'n' => readWord cs.length .null ['u', 'l', 'l'] rest fits
      | 't' => readWord cs.length (.bool true) ['r', 'u', 'e'] rest fits
      | 'f' => readWord cs.length (.bool false) ['a', 'l', 's', 'e'] rest fits
      | '"' => do
          let text ← readString cs.length [] rest (length_le_of_lt fits)
          .ok ⟨.string text.value, text.rest, text.shorter⟩
      | '-' => do
          let number ← readNumber cs.length true rest (length_le_of_lt fits)
          .ok ⟨.number number.value, number.rest, number.shorter⟩
      | '[' =>
          if room ≤ 1 then .error (.atNext .tooDeep (c :: rest))
          else do
            let items ← readItems (room - 1) [] rest
            .ok ⟨.array items.value, items.rest, Nat.lt_trans items.shorter fits⟩
      | '\x7b' =>
          if room ≤ 1 then .error (.atNext .tooDeep (c :: rest))
          else do
            let members ← readMembers (room - 1) [] rest
            .ok ⟨.object members.value, members.rest,
              Nat.lt_trans members.shorter fits⟩
      | _ =>
          if c.isDigit then do
            let number ← readNumber cs.length false (c :: rest) blanks
            .ok ⟨.number number.value, number.rest, number.shorter⟩
          else .error (.atNext .expectedValue (c :: rest))
termination_by 2 * cs.length

/-- Reads the items of an array up to its end. The items read so far stand last first. -/
def readItems (room : Nat) (done : List Json) (cs : List Char)
    : Except Fault (Parsed (List Json) cs.length) :=
  have blanks := length_skipSpace cs
  match skipSpace cs, blanks with
  | [], _ => .error (.atEnd .endInList)
  | c :: rest, blanks =>
      have fits : rest.length < cs.length := blanks
      if c = ']' then .ok ⟨done.reverse, rest, fits⟩
      else if done.isEmpty then
        match readValue room cs with
        | .error fault => .error fault
        | .ok item =>
            have := item.shorter
            match readItems room (item.value :: done) item.rest with
            | .error fault => .error fault
            | .ok items => .ok (items.within (by omega))
      else if c = ',' then
        have inner := length_skipSpace rest
        match skipSpace rest, inner with
        | [], _ => .error (.atEnd .endInValue)
        | d :: after, inner =>
            have : after.length + 1 < cs.length := Nat.lt_of_le_of_lt inner fits
            if d = ']' then .error (.atNext .trailingComma (d :: after))
            else
              match readValue room (d :: after) with
              | .error fault => .error fault
              | .ok item =>
                  have := item.shorter
                  match readItems room (item.value :: done) item.rest with
                  | .error fault => .error fault
                  | .ok items => .ok (items.within (by omega))
      else .error (.atNext .expectedListEnd (c :: rest))
termination_by 2 * cs.length + 1

/-- Reads the members of an object up to its end. The members read so far stand in order. -/
def readMembers (room : Nat) (done : List (String × Json)) (cs : List Char)
    : Except Fault (Parsed (List (String × Json)) cs.length) :=
  have blanks := length_skipSpace cs
  match skipSpace cs, blanks with
  | [], _ => .error (.atEnd .endInObject)
  | c :: rest, blanks =>
      have fits : rest.length < cs.length := blanks
      if c = '\x7d' then .ok ⟨done, rest, fits⟩
      else if done.isEmpty then
        if c = '"' then
          match readMember room rest with
          | .error fault => .error fault
          | .ok member =>
              have := member.shorter
              match readMembers room [member.value] member.rest with
              | .error fault => .error fault
              | .ok members => .ok (members.within (by omega))
        else .error (.atNext .keyNotString (c :: rest))
      else if c = ',' then
        have inner := length_skipSpace rest
        match skipSpace rest, inner with
        | [], _ => .error (.atEnd .endInValue)
        | d :: after, inner =>
            have : after.length < cs.length := Nat.lt_of_lt_of_le inner (length_le_of_lt fits)
            if d = '"' then
              match readMember room after with
              | .error fault => .error fault
              | .ok member =>
                  have := member.shorter
                  match readMembers room (Entries.put member.value.1 member.value.2 done)
                    member.rest with
                  | .error fault => .error fault
                  | .ok members => .ok (members.within (by omega))
            else if d = '\x7d' then .error (.atNext .trailingComma (d :: after))
            else .error (.atNext .keyNotString (d :: after))
      else .error (.atNext .expectedObjectEnd (c :: rest))
termination_by 2 * cs.length + 1

/-- Reads a member after the opening quote of its key. -/
def readMember (room : Nat) (cs : List Char)
    : Except Fault (Parsed (String × Json) cs.length) :=
  match readString cs.length [] cs (Nat.le_refl _) with
  | .error fault => .error fault
  | .ok key =>
      have keyed := key.shorter
      have blanks := length_skipSpace key.rest
      match skipSpace key.rest, blanks with
      | [], _ => .error (.atEnd .endInObject)
      | c :: rest, blanks =>
          have fits : rest.length < cs.length := Nat.lt_of_lt_of_le blanks (length_le_of_lt keyed)
          if c = ':' then
            match readValue room rest with
            | .error fault => .error fault
            | .ok value =>
                .ok ⟨(key.value, value.value), value.rest,
                  Nat.lt_trans value.shorter fits⟩
          else .error (.atNext .expectedColon (c :: rest))
termination_by 2 * cs.length

end

/-- Reads a whole text as one value with at most the given room. -/
def readWithin (room : Nat) (text : String) : Except ReadError Json :=
  let cs := text.toList
  match readValue room cs with
  | .error fault => .error (fault.locate cs)
  | .ok value =>
      match skipSpace value.rest with
      | [] => .ok value.value
      | rest => .error ((Fault.atNext .trailingCharacters rest).locate cs)

/-- Reads a text as JSON. Fewer than 128 arrays and objects may be open at once. -/
def read (text : String) : Except ReadError Json :=
  readWithin 128 text

end RecordSmith.Json
