/-!
# Binary floating-point numbers

A `Binary64` is a bit pattern; `view` takes it apart into a sign and an exact value `m · 2^q`. `shortest?` gives the
fewest decimal digits that read back as the same number, and of those the nearest ones.

- **`reads_shortest?`**: the digits lie in the interval of numbers that round to the given one.
-/

namespace TableGateway

/-- A floating-point number, by its bits. -/
structure Binary64 where
  bits : UInt64
  deriving DecidableEq

namespace Binary64

/-- What a bit pattern stands for. -/
inductive View where
  /-- The number `m · 2^q`, or its negative. -/
  | finite (negative : Bool) (m : Nat) (q : Int)
  | infinite (negative : Bool)
  | notNumber
  deriving DecidableEq

def ofFloat (x : Float) : Binary64 := ⟨x.toBits⟩

def toFloat (x : Binary64) : Float := Float.ofBits x.bits

/-- Sign, exponent and fraction of the pattern. -/
def view (x : Binary64) : View :=
  let n : Nat := x.bits.toNat
  let negative : Bool := n / Nat.pow 2 63 == 1
  let exponent : Nat := n / Nat.pow 2 52 % Nat.pow 2 11
  let fraction : Nat := n % Nat.pow 2 52
  if exponent = 0x7ff then if fraction = 0 then .infinite negative else .notNumber
  else if exponent = 0 then .finite negative fraction (-1074)
  else .finite negative (Nat.pow 2 52 + fraction) ((exponent : Int) - 1075)

/-- The number is zero, of either sign. -/
def isZero (x : Binary64) : Bool :=
  match x.view with
  | .finite _ m _ => m == 0
  | _ => false

/-! ## The interval of a number -/

/-- A quotient of natural numbers. -/
structure Ratio where
  num : Nat
  den : Nat

/-- The value `d · 10^e`. -/
def Ratio.ofDecimal (d : Nat) (e : Int) : Ratio :=
  if 0 ≤ e then ⟨d * Nat.pow 10 e.toNat, 1⟩ else ⟨d, Nat.pow 10 (-e).toNat⟩

/-- The value `m · 2^q`. -/
def Ratio.ofBinary (m : Nat) (q : Int) : Ratio :=
  if 0 ≤ q then ⟨m * Nat.pow 2 q.toNat, 1⟩ else ⟨m, Nat.pow 2 (-q).toNat⟩

def Ratio.lt (a b : Ratio) : Bool := a.num * b.den < b.num * a.den

def Ratio.le (a b : Ratio) : Bool := a.num * b.den ≤ b.num * a.den

/-- The numbers that round to `m · 2^q`: half way to the neighbour on either side, the lower neighbour being closer
at a power of two. The ends belong to it when `m` is even. -/
structure Interval where
  low : Ratio
  high : Ratio
  closed : Bool

def Interval.of (m : Nat) (q : Int) : Interval where
  low :=
    if m = Nat.pow 2 52 ∧ q ≠ -1074 then Ratio.ofBinary (4 * m - 1) (q - 2) else Ratio.ofBinary (2 * m - 1) (q - 1)
  high := Ratio.ofBinary (2 * m + 1) (q - 1)
  closed := m % 2 == 0

def Interval.has (i : Interval) (r : Ratio) : Bool :=
  if i.closed then i.low.le r && r.le i.high else i.low.lt r && r.lt i.high

/-! ## The shortest digits -/

/-- The point of the grid of multiples of `10^e` that is nearest to `v` among the two around it and lies in the
interval; a tie goes to the even one. -/
def nearestOn (i : Interval) (v : Ratio) (e : Int) : Option Nat :=
  let unit := Ratio.ofDecimal 1 e
  let below := v.num * unit.den / (v.den * unit.num)
  let above := below + 1
  match i.has (.ofDecimal below e), i.has (.ofDecimal above e) with
  | true, false => some below
  | false, true => some above
  | false, false => none
  | true, true =>
    -- twice the value against the sum of the two neighbours
    let twice := 2 * v.num * unit.den
    let middle := (below + above) * (v.den * unit.num)
    if twice < middle then some below
    else if middle < twice then some above
    else if below % 2 = 0 then some below else some above

/-- The first of the grids `10^e`, `10^(e-1)`, … that has a point in the interval: its digits and its exponent. -/
def firstGrid (i : Interval) (v : Ratio) : Nat → Int → Option (Nat × Int)
  | 0, _ => none
  | n + 1, e =>
    match nearestOn i v e with
    | some d => some (d, e)
    | none => firstGrid i v n (e - 1)

/-- An exponent `e` with `v < 10^(e+1)`, no more than one too large. -/
def decimalExponent (v : Ratio) : Int :=
  let len (n : Nat) : Int := (Nat.toDigits 10 n).length
  len v.num - len v.den

/-- The shortest digits `d` and their exponent `e`, so that `d · 10^e` reads back as `m · 2^q`. -/
def shortest? (m : Nat) (q : Int) : Option (Nat × Int) :=
  let v := Ratio.ofBinary m q
  firstGrid (.of m q) v 20 (decimalExponent v)

theorem has_of_nearestOn {i : Interval} {v : Ratio} {e : Int} {d : Nat} (h : nearestOn i v e = some d) :
    i.has (.ofDecimal d e) = true := by
  unfold nearestOn at h
  simp only at h
  split at h
  · simp_all
  · simp_all
  · simp at h
  · split at h
    · simp_all
    · split at h
      · simp_all
      · split at h <;> simp_all

theorem has_of_firstGrid {i : Interval} {v : Ratio} {n : Nat} {e : Int} {r : Nat × Int}
    (h : firstGrid i v n e = some r) : i.has (.ofDecimal r.1 r.2) = true := by
  induction n generalizing e with
  | zero => simp [firstGrid] at h
  | succ n ih =>
    unfold firstGrid at h
    split at h
    · next hd => cases h; exact has_of_nearestOn hd
    · exact ih h

/-- The shortest digits round to the number they were taken from. -/
theorem reads_shortest? {m : Nat} {q : Int} {r : Nat × Int} (h : shortest? m q = some r) :
    (Interval.of m q).has (.ofDecimal r.1 r.2) = true :=
  has_of_firstGrid h

/-! ## The text of a number -/

/-- How numbers are written. -/
structure NumberStyle where
  /-- Positional when the exponent of the first digit lies between these. -/
  leastPositional : Int
  mostPositional : Int
  /-- The fewest digits of a written exponent. -/
  exponentWidth : Nat
  infinity : String
  notNumber : String

/-- Positional from `0.0001` up to sixteen digits before the point; exponents have a sign and two digits. -/
def style : NumberStyle := ⟨-4, 15, 2, "inf", "nan"⟩

/-- The sign, a mantissa with its point after the first digit, and the exponent. -/
def scientific (st : NumberStyle) (ds : List Char) (e : Int) : List Char :=
  let mantissa := match ds with
    | [] => []
    | [d] => [d]
    | d :: r => d :: '.' :: r
  let mark := Nat.toDigits 10 e.natAbs
  mantissa ++ 'e' :: (if e < 0 then '-' else '+') :: (List.replicate (st.exponentWidth - mark.length) '0' ++ mark)

/-- Digits with a point, at least one digit on either side of it; `e` is the exponent of the first digit. -/
def positional (ds : List Char) (e : Int) : List Char :=
  if e < 0 then '0' :: '.' :: (List.replicate (-e - 1).toNat '0' ++ ds)
  else
    let whole := e.toNat + 1
    let front := ds.take whole ++ List.replicate (whole - ds.length) '0'
    let back := ds.drop whole
    front ++ '.' :: (if back.isEmpty then ['0'] else back)

/-- Digits without the zeros at their end. -/
def dropZeros (ds : List Char) : List Char :=
  (ds.reverse.dropWhile (· == '0')).reverse

/-- The text of a number that is not negative. -/
def magnitudeText (st : NumberStyle) (m : Nat) (q : Int) : List Char :=
  if m = 0 then ['0', '.', '0']
  else match shortest? m q with
    | none => []
    | some (d, e) =>
      let all := Nat.toDigits 10 d
      let first := e + all.length - 1
      let ds := dropZeros all
      if st.leastPositional ≤ first ∧ first ≤ st.mostPositional then positional ds first
      else scientific st ds first

/-- The shortest text that reads back as the number. -/
def text (x : Binary64) (st : NumberStyle := style) : String :=
  match x.view with
  | .notNumber => st.notNumber
  | .infinite negative => if negative then "-" ++ st.infinity else st.infinity
  | .finite negative m q =>
    String.ofList (if negative then '-' :: magnitudeText st m q else magnitudeText st m q)

end Binary64

end TableGateway
