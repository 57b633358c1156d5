import TableGateway.Keyed

/-!
# Membership

Whether something is in a value: a member of a collection, a key of a mapping, a part of a text or of bytes.

- **`occursIn_iff`**: items occur where they stand side by side.
-/

namespace TableGateway.Value

/-- Do the items stand in a row somewhere? -/
def occursIn {α : Type} [BEq α] (part : List α) : List α → Bool
  | [] => part.isEmpty
  | a :: as => part.isPrefixOf (a :: as) || occursIn part as

theorem occursIn_iff {α : Type} [BEq α] [LawfulBEq α] {part as : List α} :
    occursIn part as = true ↔ part <:+: as := by
  induction as with
  | nil => simp [occursIn]
  | cons a as ih =>
    rw [occursIn, Bool.or_eq_true, ih, List.isPrefixOf_iff_prefix]
    exact List.infix_cons_iff.symm

/-- Is the number a byte that stands among these? -/
def hasByte (bs : List UInt8) (n : Int) : Except Fault Bool :=
  if 0 ≤ n ∧ n < 256 then .ok (bs.contains (UInt8.ofNat n.toNat)) else .error .badValue

/-- Is `m` in the value? -/
def contains (v m : Value) : Except Fault Bool :=
  match v, m with
  | .list xs, m | .tuple xs, m => .ok (xs.any m.same)
  | .set xs, m => if m.isKey then .ok (xs.any m.same) else .error .wrongKind
  | .map es, m => (Keyed.find ⟨es⟩ m).map Option.isSome
  | .text s, .text p => .ok (occursIn p.toList s.toList)
  | .bytes bs, .bytes p => .ok (occursIn p bs)
  | .bytes bs, .int n => hasByte bs n
  | .bytes bs, .bool b => hasByte bs (if b then 1 else 0)
  | _, _ => .error .wrongKind

end TableGateway.Value
