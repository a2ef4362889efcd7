/-! Values of digits. -/

namespace RecordSmith.Text

/-- The value of a decimal digit character. -/
def digitValue (c : Char) : Nat :=
  c.toNat - '0'.toNat

/-- The value of a hexadecimal digit. -/
def hexValue? (c : Char) : Option Nat :=
  if '0' ≤ c && c ≤ '9' then some (c.toNat - '0'.toNat)
  else if 'a' ≤ c && c ≤ 'f' then some (c.toNat - 'a'.toNat + 10)
  else if 'A' ≤ c && c ≤ 'F' then some (c.toNat - 'A'.toNat + 10)
  else none

/-- The number that digits of a base stand for; other characters count as zero. -/
def numberValue (base : Nat) (digits : List Char) : Nat :=
  digits.foldl (fun value c => value * base + (hexValue? c).getD 0) 0

end RecordSmith.Text
