import RecordSmith.Decimal.Binary

/-! The fewest decimal digits that read back as a double, and the plain notation of doubles
built from them.
-/

namespace RecordSmith.Decimal

/-- The reals around a magnitude that round to it, as multiples of a common unit: a quarter of
the step between mantissas. The ends belong to it exactly when the mantissa is even.
-/
structure Neighbourhood where
  low : Nat
  middle : Nat
  high : Nat
  closed : Bool
  exponent : Int

/-- The neighbourhood of a positive magnitude. Below a power of two the next magnitude is
only half a step away.
-/
def Binary.neighbourhood (value : Binary) : Neighbourhood :=
  let below := if value.mantissa = twoTo 52 && value.exponent > leastExponent then 1 else 2
  { low := 4 * value.mantissa - below
    middle := 4 * value.mantissa
    high := 4 * value.mantissa + 2
    closed := value.mantissa % 2 = 0
    exponent := value.exponent - 2 }

/-- Decimal digits and the power of ten they are multiplied with. -/
structure Digits where
  value : Nat
  exponent : Int
deriving Repr, DecidableEq

/-- The factors by which both a count of the unit and a count of a power of ten become
multiples of one number.
-/
def Neighbourhood.factors (area : Neighbourhood) (exponent : Int) : Nat × Nat :=
  let two := area.exponent
  let (unitTwo, tenTwo) := if 0 ≤ two then (twoTo two.toNat, 1) else (1, twoTo (-two).toNat)
  let (tenTen, unitTen) :=
    if 0 ≤ exponent then (tenTo exponent.toNat, 1) else (1, tenTo (-exponent).toNat)
  (unitTwo * unitTen, tenTwo * tenTen)

/-- The multiple of the power of ten in the neighbourhood that is nearest to its middle, the
upper one of two at the same distance.
-/
def Neighbourhood.multiple? (area : Neighbourhood) (exponent : Int) : Option Nat :=
  let (unit, ten) := area.factors exponent
  let below := area.middle * unit / ten
  let inside (count : Nat) : Bool :=
    if area.closed then area.low * unit ≤ count * ten && count * ten ≤ area.high * unit
    else area.low * unit < count * ten && count * ten < area.high * unit
  let upperNearer := (below + 1) * ten - area.middle * unit ≤ area.middle * unit - below * ten
  if inside below && !(inside (below + 1) && upperNearer) then some below
  else if inside (below + 1) then some (below + 1)
  else none

/-- Searches powers of ten downward for the first that has a multiple in the neighbourhood. -/
def Neighbourhood.search (area : Neighbourhood) (exponent : Int) : Nat → Digits
  | 0 => ⟨0, 0⟩
  | tries + 1 =>
      match area.multiple? exponent with
      | some value => ⟨value, exponent⟩
      | none => area.search (exponent - 1) tries

/-- Upper bound on the number of decimal digits before the point. -/
def Neighbourhood.topExponent (area : Neighbourhood) : Int :=
  (area.middle.log2 + area.exponent + 1) * 30103 / 100000 + 1

/-- The fewest digits that lie in the neighbourhood of a positive magnitude. -/
def Binary.shortest (value : Binary) : Digits :=
  let area := value.neighbourhood
  area.search area.topExponent 24

/-- Digits written out in full, with a point only before a fraction. -/
def Digits.plain (digits : Digits) : List Char :=
  let shown := Nat.toDigits 10 digits.value
  if 0 ≤ digits.exponent then
    if digits.value = 0 then ['0'] else shown ++ List.replicate digits.exponent.toNat '0'
  else
    let places := (-digits.exponent).toNat
    let padded := List.replicate (places + 1 - shown.length) '0' ++ shown
    let whole := padded.take (padded.length - places)
    let fraction := (padded.drop (padded.length - places)).reverse.dropWhile (· = '0')
    if fraction.isEmpty then whole else whole ++ '.' :: fraction.reverse

/-- A double in plain notation: the fewest digits that read back, never an exponent, no point
in whole numbers, and the sign of zero kept.
-/
def text (value : Float) : String :=
  if value.isNaN then "NaN"
  else
    let bits := value.toBits.toNat
    let sign := if bits / twoTo 63 = 1 then "-" else ""
    let magnitude := bits % twoTo 63
    if value.isInf then sign ++ "inf"
    else if magnitude = 0 then sign ++ "0"
    else sign ++ String.ofList (Binary.ofBits magnitude).shortest.plain

end RecordSmith.Decimal
