import RecordSmith.Text.Digit

/-! Dates and times as TOML writes them, brought into one form. -/

namespace RecordSmith.Toml

open RecordSmith.Text (digitValue)

/-- The value of two digits. -/
def twoDigits? (a b : Char) : Option Nat :=
  if a.isDigit && b.isDigit then some (digitValue a * 10 + digitValue b) else none

/-- The year has a 29th of February. -/
def isLeapYear (year : Nat) : Bool :=
  year % 4 = 0 && (year % 100 ≠ 0 || year % 400 = 0)

/-- The number of days of a month. -/
def daysIn (year month : Nat) : Nat :=
  if month = 2 then (if isLeapYear year then 29 else 28)
  else if month = 4 || month = 6 || month = 9 || month = 11 then 30
  else 31

/-- Reads a date. -/
def readDate? : List Char → Option (List Char × List Char)
  | a :: b :: c :: d :: '-' :: e :: f :: '-' :: g :: h :: rest => do
      let century ← twoDigits? a b
      let year ← twoDigits? c d
      let month ← twoDigits? e f
      let day ← twoDigits? g h
      if 1 ≤ month && month ≤ 12 && 1 ≤ day && day ≤ daysIn (century * 100 + year) month then
        some ([a, b, c, d, '-', e, f, '-', g, h], rest)
      else none
  | _ => none

/-- The digits of a fraction of a second: at most nine, without zeros at the end. -/
def fractionText (digits : List Char) : List Char :=
  let shown := ((digits.take 9).reverse.dropWhile (· = '0')).reverse
  if shown.isEmpty then [] else '.' :: shown

/-- Reads a time of day. A minute may have a sixty-first second. -/
def readTime? : List Char → Option (List Char × List Char)
  | a :: b :: ':' :: c :: d :: ':' :: e :: f :: rest => do
      let hour ← twoDigits? a b
      let minute ← twoDigits? c d
      let second ← twoDigits? e f
      if hour ≤ 23 && minute ≤ 59 && second ≤ 60 then
        let shown := [a, b, ':', c, d, ':', e, f]
        match rest with
        | '.' :: more =>
            let digits := more.takeWhile Char.isDigit
            if digits.isEmpty then some (shown, rest)
            else some (shown ++ fractionText digits, more.dropWhile Char.isDigit)
        | _ => some (shown, rest)
      else none
  | _ => none

/-- Reads the distance from universal time. A distance of zero has a plus. -/
def readOffset? : List Char → Option (List Char × List Char)
  | 'Z' :: rest => some (['Z'], rest)
  | 'z' :: rest => some (['Z'], rest)
  | sign :: a :: b :: ':' :: c :: d :: rest => do
      let hour ← twoDigits? a b
      let minute ← twoDigits? c d
      if (sign = '+' || sign = '-') && hour ≤ 23 && minute ≤ 59 then
        let shown := if hour = 0 && minute = 0 then '+' else sign
        some ([shown, a, b, ':', c, d], rest)
      else none
  | _ => none

/-- Reads a time and perhaps its distance from universal time. -/
def readTimeOffset? (cs : List Char) : Option (List Char × List Char) := do
  let (time, rest) ← readTime? cs
  match readOffset? rest with
  | some (offset, rest) => some (time ++ offset, rest)
  | none => some (time, rest)

/-- Reads a date, a date with a time, or a time. -/
def readMoment? (cs : List Char) : Option (String × List Char) :=
  match readDate? cs with
  | none => (readTime? cs).map fun (time, rest) => (String.ofList time, rest)
  | some (date, rest) =>
      match rest with
      | mark :: more =>
          if mark = 'T' || mark = 't' || mark = ' ' then
            match readTimeOffset? more with
            | some (time, rest) => some (String.ofList (date ++ 'T' :: time), rest)
            | none => some (String.ofList date, rest)
          else some (String.ofList date, rest)
      | [] => some (String.ofList date, rest)

end RecordSmith.Toml
