import TableGateway.Number.Binary64
import TableGateway.Number.Decimal

/-!
# Exact numbers

Whole, binary and decimal numbers are compared by value. An exact number is a sign, a core without factors 2 and 5,
and the exponents of 2 and 5, so equal numbers have equal parts and no power has to be multiplied out.
-/

namespace TableGateway

inductive Exact where
  | zero
  /-- The number `core · 2^twos · 5^fives`, or its negative. -/
  | finite (negative : Bool) (core : Nat) (twos fives : Int)
  | infinite (negative : Bool)
  | notNumber
  deriving DecidableEq

namespace Exact

/-- Takes the factor `p` out of `n`, at most `fuel` times: how often it went, and what is left. -/
def takeOut (p : Nat) : Nat → Nat → Nat × Nat
  | 0, n => (0, n)
  | fuel + 1, n =>
    if n % p = 0 then
      let (k, r) := takeOut p fuel (n / p)
      (k + 1, r)
    else (0, n)

/-- The number `n · 2^a · 5^b`, or its negative. -/
def make (negative : Bool) (n : Nat) (a b : Int) : Exact :=
  if n = 0 then .zero
  else
    let (twos, odd) := takeOut 2 (n.log2 + 1) n
    let (fives, core) := takeOut 5 (n.log2 + 1) odd
    .finite negative core (twos + a) (fives + b)

def ofInt (n : Int) : Exact := make (n < 0) n.natAbs 0 0

def ofBinary64 (x : Binary64) : Exact :=
  match x.view with
  | .finite negative m q => make negative m q 0
  | .infinite negative => .infinite negative
  | .notNumber => .notNumber

def ofDecimal : Decimal → Exact
  | .finite negative c e => make negative c e e
  | .infinite negative => .infinite negative
  | .notNumber .. => .notNumber

/-- Below zero. -/
def isNegative : Exact → Bool
  | .finite negative .. => negative
  | .infinite negative => negative
  | _ => false

/-- The size of a finite number as a quotient. -/
def magnitude : Exact → Nat × Nat
  | .finite _ core twos fives =>
    (core * Nat.pow 2 twos.toNat * Nat.pow 5 fives.toNat, Nat.pow 2 (-twos).toNat * Nat.pow 5 (-fives).toNat)
  | _ => (0, 1)

/-- Less in size; an infinity is larger than all else. -/
def sizeLt (a b : Exact) : Bool :=
  match a, b with
  | .infinite _, _ => false
  | _, .infinite _ => true
  | a, b => a.magnitude.1 * b.magnitude.2 < b.magnitude.1 * a.magnitude.2

/-- Less as numbers; what is no number is neither less nor greater. -/
def lt (a b : Exact) : Bool :=
  if a = .notNumber ∨ b = .notNumber then false
  else match a.isNegative, b.isNegative with
    | true, false => true
    | false, true => false
    | false, false => sizeLt a b
    | true, true => sizeLt b a

end Exact

end TableGateway
