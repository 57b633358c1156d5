import TableGateway.Text.Blank
import TableGateway.Text.Digit

/-!
# Decimal numbers

A decimal number keeps its digits and its exponent apart, so `1.0` and `1.00` are equal and written differently. It
may also be an infinity or one of two kinds of non-number, the signaling one of which cannot be compared.

- **`parse`** reads a decimal numeral: blanks at its ends and underscores anywhere are skipped, digits of every
  script count, and the exponent must lie within bounds.
-/

namespace TableGateway

inductive Decimal where
  /-- The number `coefficient · 10^exponent`, or its negative. -/
  | finite (negative : Bool) (coefficient : Nat) (exponent : Int)
  | infinite (negative : Bool)
  /-- No number; `payload` holds the digits after it. -/
  | notNumber (negative signaling : Bool) (payload : Nat)
  deriving DecidableEq

namespace Decimal

/-- The largest exponent of a first digit. -/
def greatestExponent : Int := 999999999999999999

/-- The smallest exponent of a last digit. -/
def leastExponent : Int := -1999999999999999997

/-- The digits of a coefficient. -/
def digits (n : Nat) : List Char := Nat.toDigits 10 n

/-- Can a coefficient stand with this exponent? -/
def inBounds (coefficient : Nat) (exponent : Int) : Bool :=
  leastExponent ≤ exponent && exponent + (digits coefficient).length - 1 ≤ greatestExponent

/-! ## Reading -/

/-- The character that a numeral's character counts as: a digit of any script as the ASCII one, a letter as the
small one. Nothing else beyond ASCII belongs to a numeral. -/
def plainChar (c : Char) : Option Char :=
  match Text.digitValue? c with
  | some d => some (Char.ofNat (48 + d))
  | none => if c.toNat < 128 then some c.toLower else none

def natOf (ds : List Char) : Nat :=
  ds.foldl (fun n c => 10 * n + (c.toNat - 48)) 0

/-- An exponent: an optional sign and at least one digit. -/
def readExponent : List Char → Option Int
  | '-' :: r => if !r.isEmpty && r.all Char.isDigit then some (-(natOf r : Int)) else none
  | '+' :: r => if !r.isEmpty && r.all Char.isDigit then some (natOf r : Int) else none
  | r => if !r.isEmpty && r.all Char.isDigit then some (natOf r : Int) else none

/-- The fraction after a point, and what follows it. -/
def readFraction : List Char → List Char × List Char
  | '.' :: r => (r.takeWhile Char.isDigit, r.dropWhile Char.isDigit)
  | r => ([], r)

/-- A number within bounds, from its digits and exponent. -/
def bounded (negative : Bool) (coefficient : Nat) (exponent : Int) : Option Decimal :=
  if inBounds coefficient exponent then some (.finite negative coefficient exponent) else none

/-- The unsigned part of a numeral. -/
def readUnsigned (negative : Bool) (cs : List Char) : Option Decimal :=
  if cs = "inf".toList ∨ cs = "infinity".toList then some (.infinite negative)
  else match cs with
    | 'n' :: 'a' :: 'n' :: r => if r.all Char.isDigit then some (.notNumber negative false (natOf r)) else none
    | 's' :: 'n' :: 'a' :: 'n' :: r => if r.all Char.isDigit then some (.notNumber negative true (natOf r)) else none
    | _ =>
      let whole := cs.takeWhile Char.isDigit
      let (fraction, rest) := readFraction (cs.dropWhile Char.isDigit)
      let coefficient := natOf (whole ++ fraction)
      if whole.isEmpty && fraction.isEmpty then none
      else match rest with
        | [] => bounded negative coefficient (-(fraction.length : Int))
        | 'e' :: r => (readExponent r).bind fun e => bounded negative coefficient (e - fraction.length)
        | _ => none

/-- The number that a numeral stands for. -/
def parse (s : String) : Option Decimal :=
  match ((Text.trim s.toList).filter (· != '_')).mapM plainChar with
  | none => none
  | some ('-' :: r) => readUnsigned true r
  | some ('+' :: r) => readUnsigned false r
  | some r => readUnsigned false r

/-! ## Writing -/

def signText (negative : Bool) : List Char := if negative then ['-'] else []

/-- Positional while the exponent is not positive and the first digit is at most six places after the point;
otherwise one digit, a point, the others and the exponent. -/
def finiteText (coefficient : Nat) (exponent : Int) : List Char :=
  let ds := digits coefficient
  let left := exponent + ds.length
  let place := if exponent ≤ 0 ∧ -6 < left then left else 1
  let body :=
    if place ≤ 0 then '0' :: '.' :: (List.replicate (-place).toNat '0' ++ ds)
    else if ds.length ≤ place.toNat then ds ++ List.replicate (place.toNat - ds.length) '0'
    else ds.take place.toNat ++ '.' :: ds.drop place.toNat
  let e := left - place
  if e = 0 then body else body ++ 'E' :: (if e < 0 then '-' else '+') :: Nat.toDigits 10 e.natAbs

def text : Decimal → String
  | .finite negative coefficient exponent => String.ofList (signText negative ++ finiteText coefficient exponent)
  | .infinite negative => String.ofList (signText negative ++ "Infinity".toList)
  | .notNumber negative signaling payload =>
    String.ofList (signText negative ++ (if signaling then "sNaN" else "NaN").toList ++
      (if payload = 0 then [] else digits payload))

/-! ## Zero -/

/-- The number is zero, whatever its sign and exponent. -/
def isZero : Decimal → Bool
  | .finite _ coefficient _ => coefficient == 0
  | _ => false

def isSignaling : Decimal → Bool
  | .notNumber _ signaling _ => signaling
  | _ => false

end Decimal

end TableGateway
