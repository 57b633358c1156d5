import TableGateway.Fault
import TableGateway.Number.Decimal

/-!
# Rounded decimal arithmetic

Sums and products of decimal numbers keep at most 28 digits. A longer result is rounded to the nearest number that is
short enough, half way to the even one; one whose first digit lies too high overflows, and one whose last digit lies
too low loses the digits that do.

- **`shorten_near`**: rounding moves a number by half a unit of its last place at most.
-/

namespace TableGateway.Decimal

/-- The numbers that results are rounded to. -/
structure Grid where
  /-- The most digits of a coefficient. -/
  places : Nat
  /-- The least exponent of the first digit, when all places are used. -/
  least : Int
  /-- The greatest exponent of the first digit. -/
  greatest : Int

/-- Results have 28 digits and exponents of six digits. -/
def grid : Grid := ⟨28, -999999, 999999⟩

namespace Grid

/-- The least exponent of a coefficient. -/
def lowest (g : Grid) : Int := g.least - g.places + 1

/-- The greatest exponent of a coefficient of all places. -/
def highest (g : Grid) : Int := g.greatest - g.places + 1

end Grid

/-! ## Rounding -/

/-- How many digits a number has. -/
def digitCount (n : Nat) : Nat := (digits n).length

/-- A number without its last `k` digits, rounded to the nearest and half way to the even one. -/
def shorten (n k : Nat) : Nat :=
  let unit := Nat.pow 10 k
  if 2 * (n % unit) < unit then n / unit
  else if unit < 2 * (n % unit) then n / unit + 1
  else n / unit + n / unit % 2

/-- A coefficient brought up to the exponent `last`; of one that lies far below it nothing is left. -/
def raised (g : Grid) (c : Nat) (e last : Int) : Nat × Int :=
  let k := (last - e).toNat
  let r := if digitCount c < k then 0 else shorten c k
  if g.places < digitCount r then (r / 10, last + 1) else (r, last)

/-- The number of the grid that is nearest to `c · 10^e`. -/
def fit (g : Grid) (negative : Bool) (c : Nat) (e : Int) : Except Fault Decimal :=
  if c = 0 then .ok (.finite negative 0 (min (max e g.lowest) g.greatest))
  else
    let last := e + digitCount c - g.places
    if g.highest < last then .error .decimalOverflow
    else if e < max last g.lowest then
      let (r, e') := raised g c e (max last g.lowest)
      if g.highest < e' then .error .decimalOverflow else .ok (.finite negative r e')
    else .ok (.finite negative c e)

/-- What is no number, as a result: quiet, and with no more digits after it than there are places. -/
def fitNotNumber (g : Grid) (negative : Bool) (payload : Nat) : Decimal :=
  .notNumber negative false (payload % Nat.pow 10 g.places)

/-! ## Sums -/

/-- Two coefficients over one exponent, the first of which has the greater exponent. A second number that lies below
all places of the result is replaced by one unit that does, too. -/
def aligned (g : Grid) (c₁ : Nat) (e₁ : Int) (c₂ : Nat) (e₂ : Int) : Nat × Nat × Int :=
  let floor := e₁ + min (-1) ((digitCount c₁ : Int) - g.places - 2)
  let (c₂, e₂) := if e₂ + digitCount c₂ - 1 < floor then (1, floor) else (c₂, e₂)
  (c₁ * Nat.pow 10 (e₁ - e₂).toNat, c₂, e₂)

/-- A coefficient with its sign. -/
def signedBy (negative : Bool) (c : Nat) : Int := if negative then -c else c

/-- The sum of zero and another number, under an exponent not far below that number's. -/
def sumZero (g : Grid) (e : Int) (negative : Bool) (c : Nat) (e' : Int) : Except Fault Decimal :=
  let low := max (min e e') (e' - g.places - 1)
  fit g negative (c * Nat.pow 10 (e' - low).toNat) low

/-- The sum of finite numbers. -/
def sumFinite (g : Grid) (n₁ : Bool) (c₁ : Nat) (e₁ : Int) (n₂ : Bool) (c₂ : Nat) (e₂ : Int) : Except Fault Decimal :=
  if c₁ = 0 ∧ c₂ = 0 then fit g (n₁ && n₂) 0 (min e₁ e₂)
  else if c₁ = 0 then sumZero g e₁ n₂ c₂ e₂
  else if c₂ = 0 then sumZero g e₂ n₁ c₁ e₁
  else
    let (a, b, e) :=
      if e₁ < e₂ then
        let (b, a, e) := aligned g c₂ e₂ c₁ e₁
        (a, b, e)
      else aligned g c₁ e₁ c₂ e₂
    let total := signedBy n₁ a + signedBy n₂ b
    fit g (total < 0) total.natAbs e

/-- The sum of two numbers. -/
def sum (g : Grid) : Decimal → Decimal → Except Fault Decimal
  | .notNumber _ true _, _ => .error .decimalSignal
  | _, .notNumber _ true _ => .error .decimalSignal
  | .notNumber n _ p, _ => .ok (fitNotNumber g n p)
  | _, .notNumber n _ p => .ok (fitNotNumber g n p)
  | .infinite n, .infinite m => if n = m then .ok (.infinite n) else .error .decimalSignal
  | .infinite n, _ => .ok (.infinite n)
  | _, .infinite n => .ok (.infinite n)
  | .finite n₁ c₁ e₁, .finite n₂ c₂ e₂ => sumFinite g n₁ c₁ e₁ n₂ c₂ e₂

/-! ## Products -/

/-- The product of two numbers. -/
def product (g : Grid) : Decimal → Decimal → Except Fault Decimal
  | .notNumber _ true _, _ => .error .decimalSignal
  | _, .notNumber _ true _ => .error .decimalSignal
  | .notNumber n _ p, _ => .ok (fitNotNumber g n p)
  | _, .notNumber n _ p => .ok (fitNotNumber g n p)
  | .infinite n, .infinite m => .ok (.infinite (n != m))
  | .infinite n, .finite m c _ => if c = 0 then .error .decimalSignal else .ok (.infinite (n != m))
  | .finite n c _, .infinite m => if c = 0 then .error .decimalSignal else .ok (.infinite (n != m))
  | .finite n₁ c₁ e₁, .finite n₂ c₂ e₂ => fit g (n₁ != n₂) (c₁ * c₂) (e₁ + e₂)

/-- A natural number. -/
def ofNat (n : Nat) : Decimal := .finite false n 0

/-! ## What rounding does -/

theorem shorten_near (n k : Nat) :
    2 * n ≤ 2 * (shorten n k * Nat.pow 10 k) + Nat.pow 10 k ∧
      2 * (shorten n k * Nat.pow 10 k) ≤ 2 * n + Nat.pow 10 k := by
  have positive : 0 < Nat.pow 10 k := Nat.pow_pos (by decide : 0 < 10)
  unfold shorten
  generalize Nat.pow 10 k = unit at positive
  have parts := Nat.div_add_mod n unit
  have up : (n / unit + 1) * unit = unit * (n / unit) + unit := by rw [Nat.add_mul, Nat.mul_comm, Nat.one_mul]
  have down : n / unit * unit = unit * (n / unit) := Nat.mul_comm _ _
  have less := Nat.mod_lt n positive
  simp only
  split
  · rw [down]; omega
  · split
    · rw [up]; omega
    · rcases Nat.mod_two_eq_zero_or_one (n / unit) with h | h
      · rw [h, Nat.add_zero, down]; omega
      · rw [h, up]; omega

end TableGateway.Decimal
