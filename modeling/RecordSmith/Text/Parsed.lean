/-! What a reader hands on: the value it read and the characters it left. -/

namespace RecordSmith.Text

/-- A value read from the front of a text, and the rest of the text, which is shorter than
the limit.
-/
structure Parsed (α : Type) (limit : Nat) where
  value : α
  rest : List Char
  shorter : rest.length < limit

/-- A limit may be raised. -/
def Parsed.within {α : Type} {limit more : Nat} (read : Parsed α limit) (h : limit ≤ more)
    : Parsed α more :=
  ⟨read.value, read.rest, Nat.lt_of_lt_of_le read.shorter h⟩

/-- A value with the rest of the text, if the rest is shorter than the limit. -/
def Parsed.ofRest? {α : Type} (limit : Nat) (read : α × List Char) : Option (Parsed α limit) :=
  if h : read.2.length < limit then some ⟨read.1, read.2, h⟩ else none

/-- A text without its first character is no longer. -/
theorem length_le_cons (c : Char) (rest : List Char)
    : rest.length ≤ (c :: rest).length :=
  Nat.le_succ rest.length

/-- A text below a limit is within it. -/
theorem length_le_of_lt {rest : List Char} {limit : Nat} (h : rest.length < limit)
    : rest.length ≤ limit :=
  Nat.le_of_lt h

/-- A text is below a limit if it is with a character in front. -/
theorem length_lt_of_cons_lt {c : Char} {rest : List Char} {limit : Nat}
    (h : (c :: rest).length < limit)
    : rest.length < limit :=
  Nat.lt_of_succ_lt h

/-- What is left of a text below a limit is within the limit. -/
theorem Parsed.rest_le {α : Type} {cs : List Char} {limit : Nat} (read : Parsed α cs.length)
    (h : cs.length < limit)
    : read.rest.length ≤ limit :=
  Nat.le_of_lt (Nat.lt_trans read.shorter h)

/-- Dropping characters from the front never lengthens a text. -/
theorem length_dropWhile_le {α : Type} (p : α → Bool) (cs : List α)
    : (cs.dropWhile p).length ≤ cs.length :=
  (List.dropWhile_sublist p).length_le

/-- The number of bytes of a text in UTF-8. -/
def utf8Length (cs : List Char) : Nat :=
  cs.foldl (fun total c => total + c.utf8Size) 0

end RecordSmith.Text
