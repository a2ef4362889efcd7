import RecordSmith.Decimal.Power
import RecordSmith.Json.Basic
import RecordSmith.Text.Digit

/-! Reading the digits of a JSON number. Up to 64 bits of digits are kept exactly; a number
with a fraction, an exponent or more digits becomes a double by one multiplication or division
with a power of ten.
-/

namespace RecordSmith.Json

open RecordSmith.Text (digitValue)

/-- Digits collected so far: their value, how many were taken, how many no longer fitted. -/
structure Digits where
  value : Nat
  taken : Nat
  dropped : Nat

/-- Appends digits as long as the value stays below the bound; from the first that does not
fit on, digits are only counted.
-/
def Digits.extend (bound : Nat) (digits : Digits) : List Char → Digits
  | [] => digits
  | c :: rest =>
      if digits.dropped = 0 && digits.value * 10 + digitValue c < bound then
        Digits.extend bound ⟨digits.value * 10 + digitValue c, digits.taken + 1, 0⟩ rest
      else
        Digits.extend bound ⟨digits.value, digits.taken, digits.dropped + 1⟩ rest

/-- The digits of an integer that fit in 64 bits, continuing from a value. -/
def wordDigits (start : Nat) (cs : List Char) : Digits :=
  Digits.extend (Decimal.twoTo 64) ⟨start, 0, 0⟩ cs

/-- A power of ten as a double. -/
def powerOfTen (exponent : Nat) : Float :=
  Float.ofScientific 1 false exponent

/-- The double scaled by a power of ten, nothing if it is too large. Far negative powers are
applied in steps of 308.
-/
def scaled? (value : Float) (exponent : Int) : Option Float :=
  if exponent > 308 then
    if value == 0.0 then some value else none
  else if 0 ≤ exponent then
    let result := value * powerOfTen exponent.toNat
    if result.isInf then none else some result
  else if -308 ≤ exponent then
    some (value / powerOfTen (-exponent).toNat)
  else if value == 0.0 then some value
  else scaled? (value / powerOfTen 308) (exponent + 308)
termination_by (-exponent).toNat

/-- The double of a sign, digits and a power of ten. -/
def double? (negative : Bool) (significand : Nat) (exponent : Int) : Option Float :=
  (scaled? significand.toUInt64.toFloat exponent).map fun value =>
    if negative then -value else value

/-- A number without fraction and exponent: exact within 64 bits, where a negative one has
to be a signed word, and a double otherwise. Minus zero is a double.
-/
def Number.ofWord (negative : Bool) (significand : Nat) : Number :=
  if !negative then .integer significand
  else if significand = 0 || significand > Decimal.twoTo 63 then
    .real (-significand.toUInt64.toFloat)
  else .integer (-significand)

end RecordSmith.Json
