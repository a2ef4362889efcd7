/-! The powers that numbers are built from. -/

namespace RecordSmith.Decimal

/-- A power of two. -/
def twoTo (exponent : Nat) : Nat :=
  Nat.pow 2 exponent

/-- A power of ten. -/
def tenTo (exponent : Nat) : Nat :=
  Nat.pow 10 exponent

end RecordSmith.Decimal
