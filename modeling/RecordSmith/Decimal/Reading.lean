import RecordSmith.Decimal.Binary
import RecordSmith.Text.Digit

/-! Numbers read from whole texts. -/

namespace RecordSmith.Decimal

open RecordSmith.Text (numberValue)

/-- A sign in front of a text, told by whether it is a minus, and the rest. -/
def splitSign : List Char → Bool × List Char
  | '-' :: rest => (true, rest)
  | '+' :: rest => (false, rest)
  | rest => (false, rest)

/-- The integer within a signed word of 64 bits that the text is, written with decimal digits
and perhaps a sign.
-/
def integer? (cs : List Char) : Option Int :=
  let (negative, digits) := splitSign cs
  let value : Int := numberValue 10 digits
  let signed := if negative then -value else value
  if digits.isEmpty || !digits.all Char.isDigit then none
  else if -(twoTo 63 : Int) ≤ signed && signed < twoTo 63 then some signed
  else none

/-- The exponent that a text is, including the letter in front; an empty text is zero. -/
def exponent? : List Char → Option Int
  | [] => some 0
  | mark :: rest =>
      let (negative, digits) := splitSign rest
      let value : Int := numberValue 10 digits
      if (mark = 'e' || mark = 'E') && !digits.isEmpty && digits.all Char.isDigit then
        some (if negative then -value else value)
      else none

/-- The unsigned digits, point and exponent of a double. -/
def magnitude? (negative : Bool) (cs : List Char) : Option Float :=
  let whole := cs.takeWhile Char.isDigit
  let rest := cs.dropWhile Char.isDigit
  let (fraction, rest) :=
    match rest with
    | '.' :: rest => (rest.takeWhile Char.isDigit, rest.dropWhile Char.isDigit)
    | rest => ([], rest)
  if whole.isEmpty && fraction.isEmpty then none
  else
    (exponent? rest).map fun exponent =>
      nearest negative (numberValue 10 (whole ++ fraction)) (exponent - fraction.length)

/-- The double that a text is: a decimal fraction, an infinity or no number. -/
def double? (cs : List Char) : Option Float :=
  let (negative, body) := splitSign cs
  let word := String.ofList (body.map Char.toLower)
  if word = "inf" || word = "infinity" then some (if negative then -(1.0 / 0.0) else 1.0 / 0.0)
  else if word = "nan" then some (0.0 / 0.0)
  else magnitude? negative body

end RecordSmith.Decimal
