import TableGateway.Error

/-!
# Outcomes

An operation answers with one `Outcome`: a value or an error, never both. Faults are not outcomes; `settle` turns the
errors of a computation into answers and lets its faults through.

- **`map_map`**, **`flatMap_assoc`**: mapping and chaining compose, and an error passes through both.
-/

namespace TableGateway

/-- What an error type tells about its errors. -/
class Reported (ε : Type) where
  text : ε → String
  literal : ε → String
  detail : ε → Except Fault (Keyed Value)

instance : Reported Error := ⟨Error.text, Error.literal, Error.detail⟩

/-- A value or an error. -/
abbrev Outcome (ε α : Type) := Except ε α

namespace Outcome

variable {ε δ α β γ : Type}

def isOk : Outcome ε α → Bool
  | .ok _ => true
  | .error _ => false

def isErr (r : Outcome ε α) : Bool := !r.isOk

/-- The value, or `d` for an error. -/
def valueOr (r : Outcome ε α) (d : α) : α :=
  match r with
  | .ok a => a
  | .error _ => d

/-- The outcome with its value changed by what may run into a fault. -/
def map (f : α → Except Fault β) : Outcome ε α → Except Fault (Outcome ε β)
  | .ok a => (f a).map .ok
  | .error e => .ok (.error e)

/-- The outcome of what follows the value. -/
def flatMap (f : α → Except Fault (Outcome ε β)) : Outcome ε α → Except Fault (Outcome ε β)
  | .ok a => f a
  | .error e => .ok (.error e)

/-- The outcome with its error changed. -/
def mapErr (f : ε → δ) : Outcome ε α → Outcome δ α
  | .ok a => .ok a
  | .error e => .error (f e)

/-- The error, if it is one. -/
def error? : Outcome ε α → Option ε
  | .ok _ => none
  | .error e => some e

/-- The literal of an outcome. -/
def literal [Reported ε] (value : α → String) : Outcome ε α → String
  | .ok a => "Ok(" ++ value a ++ ")"
  | .error e => "Err(" ++ Reported.literal e ++ ")"

/-- Runs to an answer: errors become answers, faults stay faults. -/
def settle : Except Failure α → Except Fault (Outcome Error α)
  | .ok a => .ok (.ok a)
  | .error (.refused e) => .ok (.error e)
  | .error (.broken f) => .error f

theorem map_map (f : α → β) (g : β → γ) (r : Outcome ε α) :
    (map (fun a => .ok (f a)) r).bind (map fun b => .ok (g b)) = map (fun a => .ok (g (f a))) r := by
  cases r <;> rfl

theorem flatMap_assoc (f : α → Except Fault (Outcome ε β)) (g : β → Except Fault (Outcome ε γ)) (r : Outcome ε α) :
    (flatMap f r).bind (flatMap g) = flatMap (fun a => (f a).bind (flatMap g)) r := by
  cases r <;> rfl

end Outcome

end TableGateway
