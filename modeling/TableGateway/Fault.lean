/-!
# Faults

A fault is a failure that no rule of the gateway foresees: an operation met a value it is not defined on, or code
handed in by the caller failed for reasons of its own. Faults are not answers; they leave the call as they are.

- **`bind_eq_ok`**, **`map_eq_ok`**: what may fail has ended well only when its first step has.
- **`bind_of_ok`**: it ends well when both of its steps do.
-/

namespace TableGateway

/-- What went wrong where no rule of the gateway applies. -/
inductive Fault where
  /-- A value of a kind that the operation does not take. -/
  | wrongKind
  /-- The value lacks the operation that was asked of it. -/
  | noSuchOperation
  /-- The kind is right, the value is not. -/
  | badValue
  /-- A mapping has no such entry. -/
  | missingKey
  /-- A number too large for the operation. -/
  | overflow
  /-- Something was taken from an empty sequence. -/
  | exhausted
  /-- A decimal operation on a signaling number. -/
  | decimalSignal
  /-- A decimal result too large for its exponent. -/
  | decimalOverflow
  /-- Something that can only be tried again and again. -/
  | endless
  /-- A broken promise inside the program. -/
  | assertion
  /-- The client library's own error, with its text. -/
  | client (message : String)
  /-- An error raised by code of the caller, with its text. -/
  | raised (message : String)
  deriving DecidableEq, Repr

/-! ## What may fail -/

variable {ε α β : Type}

theorem map_eq_ok {f : α → β} {x : Except ε α} {b : β} (h : x.map f = .ok b) : ∃ a, x = .ok a ∧ f a = b := by
  cases x with
  | error e => cases h
  | ok a => exact ⟨a, rfl, by cases h; rfl⟩

theorem bind_eq_ok {x : Except ε α} {f : α → Except ε β} {b : β} (h : (x >>= f) = .ok b) :
    ∃ a, x = .ok a ∧ f a = .ok b := by
  cases x with
  | error e => cases h
  | ok a => exact ⟨a, rfl, h⟩

theorem bind_of_ok {x : Except ε α} {f : α → Except ε β} {a : α} {b : β} (first : x = .ok a) (rest : f a = .ok b) :
    (x >>= f) = .ok b := by
  rw [first]
  exact rest

end TableGateway
