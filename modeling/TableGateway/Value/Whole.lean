import TableGateway.Value
import TableGateway.Number.Integer

/-!
# Values as whole numbers

`toWhole` cuts a number down to its whole part and reads texts and byte strings as numerals.
-/

namespace TableGateway

/-- The whole part of `m · 2^q`. -/
def Binary64.cut (m : Nat) (q : Int) : Nat :=
  if 0 ≤ q then m * Nat.pow 2 q.toNat else m / Nat.pow 2 (-q).toNat

/-- The whole part of `c · 10^e`. -/
def Decimal.cut (c : Nat) (e : Int) : Nat :=
  if 0 ≤ e then c * Nat.pow 10 e.toNat else c / Nat.pow 10 (-e).toNat

namespace Value

/-- A number with a sign. -/
def signed (negative : Bool) (n : Nat) : Int := if negative then -n else n

/-- A numeral or a fault. -/
def numeral (cs : List Char) : Except Fault Int :=
  match Integer.readChars cs with
  | some n => .ok n
  | none => .error .badValue

/-- The whole number that a value stands for. -/
def toWhole : Value → Except Fault Int
  | .bool b => .ok (if b then 1 else 0)
  | .int n => .ok n
  | .float x =>
    match x.view with
    | .finite negative m q => .ok (signed negative (Binary64.cut m q))
    | .infinite _ => .error .overflow
    | .notNumber => .error .badValue
  | .decimal (.finite negative c e) => .ok (signed negative (Decimal.cut c e))
  | .decimal (.infinite _) => .error .overflow
  | .decimal (.notNumber ..) => .error .badValue
  | .text s => numeral s.toList
  | .bytes bs =>
    if bs.all (·.toNat < 128) then numeral (bs.map fun b => Char.ofNat b.toNat) else .error .badValue
  | _ => .error .wrongKind

end Value

end TableGateway
