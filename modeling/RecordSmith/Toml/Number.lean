import RecordSmith.Decimal.Reading
import RecordSmith.Toml.Basic

/-! Numbers as TOML writes them. -/

namespace RecordSmith.Toml

open RecordSmith.Text (hexValue? numberValue)

/-- Reads more digits, of which any but the first may follow an underscore. The digits read
so far stand last first.
-/
def moreDigits? (isDigit : Char → Bool) (done : List Char)
    : List Char → Option (List Char × List Char)
  | [] => some (done.reverse, [])
  | ['_'] => none
  | '_' :: c :: rest => if isDigit c then moreDigits? isDigit (c :: done) rest else none
  | c :: rest =>
      if isDigit c then moreDigits? isDigit (c :: done) rest else some (done.reverse, c :: rest)

/-- Reads digits, at least one. -/
def readDigits? (isDigit : Char → Bool) : List Char → Option (List Char × List Char)
  | [] => none
  | c :: rest => if isDigit c then moreDigits? isDigit [c] rest else none

/-- Reads the digits of a decimal integer, where zero stands alone. -/
def readWhole? : List Char → Option (List Char × List Char)
  | '0' :: rest => some (['0'], rest)
  | cs => readDigits? Char.isDigit cs

/-- Reads a sign, kept as text. -/
def readSign : List Char → List Char × List Char
  | '-' :: rest => (['-'], rest)
  | '+' :: rest => (['+'], rest)
  | rest => ([], rest)

/-- The digit counts in a base. -/
def isDigitOf (base : Nat) (c : Char) : Bool :=
  match hexValue? c with
  | some value => value < base
  | none => false

/-- Reads the digits after the mark of a base; they have to fit in a signed word. -/
def readBased? (base : Nat) (cs : List Char) : Option (Int × List Char) := do
  let (digits, rest) ← readDigits? (isDigitOf base) cs
  let value := numberValue base digits
  if value < Decimal.twoTo 63 then some (value, rest) else none

/-- Reads an integer. -/
def readInteger? : List Char → Option (Int × List Char)
  | '0' :: 'x' :: rest => readBased? 16 rest
  | '0' :: 'o' :: rest => readBased? 8 rest
  | '0' :: 'b' :: rest => readBased? 2 rest
  | cs => do
      let (sign, rest) := readSign cs
      let (digits, rest) ← readWhole? rest
      let value ← Decimal.integer? (sign ++ digits)
      return (value, rest)

/-- Reads a point and the digits after it, if there is a point. -/
def readFraction? : List Char → Option (List Char × List Char)
  | '.' :: rest => do
      let (digits, rest) ← readDigits? Char.isDigit rest
      return ('.' :: digits, rest)
  | rest => some ([], rest)

/-- Reads an exponent, if there is one. -/
def readExponent? : List Char → Option (List Char × List Char)
  | [] => some ([], [])
  | mark :: rest =>
      if mark = 'e' || mark = 'E' then do
        let (sign, rest) := readSign rest
        let (digits, rest) ← readDigits? Char.isDigit rest
        return (mark :: sign ++ digits, rest)
      else some ([], mark :: rest)

/-- Reads the word for an infinity or for no number. -/
def readSpecial? : List Char → Option (List Char × List Char)
  | 'i' :: 'n' :: 'f' :: rest => some (['i', 'n', 'f'], rest)
  | 'n' :: 'a' :: 'n' :: rest => some (['n', 'a', 'n'], rest)
  | _ => none

/-- Reads a decimal fraction with a point or an exponent. One above all doubles is refused. -/
def readDecimal? (sign cs : List Char) : Option (Float × List Char) := do
  let (whole, rest) ← readWhole? cs
  let (fraction, rest) ← readFraction? rest
  let (exponent, rest) ← readExponent? rest
  if fraction.isEmpty && exponent.isEmpty then none
  else
    let value ← Decimal.double? (sign ++ whole ++ fraction ++ exponent)
    if value.isInf && value > 0.0 then none else some (value, rest)

/-- Reads a double. -/
def readFloat? (cs : List Char) : Option (Float × List Char) :=
  let (sign, body) := readSign cs
  match readSpecial? body with
  | some (word, rest) => (Decimal.double? (sign ++ word)).map (·, rest)
  | none => readDecimal? sign body

end RecordSmith.Toml
