import RecordSmith.Decimal.Power

/-! Doubles as exact binary fractions. -/

namespace RecordSmith.Decimal

/-- The magnitude of a finite double: a mantissa below 2^53 times a power of two. -/
structure Binary where
  mantissa : Nat
  exponent : Int
deriving Repr, DecidableEq

/-- The least exponent, that of the doubles closest to zero. -/
def leastExponent : Int :=
  -1074

/-- The largest exponent of a finite double. -/
def greatestExponent : Int :=
  971

/-- The magnitude encoded in the bits of a finite double. -/
def Binary.ofBits (bits : Nat) : Binary :=
  let field : Nat := bits / twoTo 52 % twoTo 11
  let fraction : Nat := bits % twoTo 52
  if field = 0 then ⟨fraction, leastExponent⟩
  else ⟨fraction + twoTo 52, field + leastExponent - 1⟩

/-- The bits of a magnitude whose mantissa has 53 binary digits, or fewer at the least
exponent; too large a magnitude gives infinity.
-/
def Binary.toBits (value : Binary) : Nat :=
  if value.exponent > greatestExponent then 2047 * twoTo 52
  else if value.mantissa < twoTo 52 then value.mantissa
  else value.mantissa - twoTo 52 + (value.exponent - leastExponent + 1).toNat * twoTo 52

/-- The quotient rounded to the nearest natural number, halves to the even one. -/
def roundHalfEven (num den : Nat) : Nat :=
  let floor := num / den
  let twice := 2 * (num % den)
  if twice > den || (twice = den && floor % 2 = 1) then floor + 1 else floor

/-- Multiplies a fraction by a power of two. -/
def scaleTwo (num den : Nat) (power : Int) : Nat × Nat :=
  if 0 ≤ power then (num * twoTo power.toNat, den) else (num, den * twoTo (-power).toNat)

/-- The magnitude nearest to a positive fraction. -/
def Binary.nearest (num den : Nat) : Binary :=
  let guess : Int := (num.log2 : Int) - den.log2 - 53
  let bound (exponent : Int) : Int := max exponent leastExponent
  let rounded (exponent : Int) : Nat :=
    let (n, d) := scaleTwo num den (-exponent)
    roundHalfEven n d
  let exponent :=
    if rounded (bound guess) < twoTo 53 then bound guess
    else if rounded (bound (guess + 1)) < twoTo 53 then bound (guess + 1)
    else bound (guess + 2)
  ⟨rounded exponent, exponent⟩

/-- The double nearest to a decimal fraction. Powers of ten far outside the range of doubles
are settled by the number of digits.
-/
def nearest (negative : Bool) (digits : Nat) (exponent : Int) : Float :=
  let size : Int := (Nat.toDigits 10 digits).length + exponent
  let bits : Nat :=
    if digits = 0 || size < -400 then 0
    else if size > 400 then 2047 * twoTo 52
    else if 0 ≤ exponent then (Binary.nearest (digits * tenTo exponent.toNat) 1).toBits
    else (Binary.nearest digits (tenTo (-exponent).toNat)).toBits
  Float.ofBits (bits + if negative then twoTo 63 else 0).toUInt64

end RecordSmith.Decimal
