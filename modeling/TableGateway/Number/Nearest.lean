import TableGateway.Number.Exact

/-!
# The nearest binary number

Every decimal number but a signaling one has a nearest binary number; one that is too large has an infinity, one that
is too small a zero.
-/

namespace TableGateway.Decimal

/-- The nearest binary number without its sign. -/
def nearestMagnitude (coefficient : Nat) (exponent : Int) : Float :=
  let last : Int := exponent + (digits coefficient).length
  if coefficient = 0 ∨ last < -400 then 0.0
  else if 400 < last then 1.0 / 0.0
  else if 0 ≤ exponent then Float.ofScientific coefficient false exponent.toNat
  else Float.ofScientific coefficient true (-exponent).toNat

/-- The nearest binary number. -/
def nearest : Decimal → Option Binary64
  | .finite negative c e =>
    some (.ofFloat (if negative then -(nearestMagnitude c e) else nearestMagnitude c e))
  | .infinite negative => some (.ofFloat (if negative then -1.0 / 0.0 else 1.0 / 0.0))
  | .notNumber _ signaling _ => if signaling then none else some (.ofFloat (0.0 / 0.0))

end TableGateway.Decimal
