import TableGateway.Keyed

/-!
# Arguments by place and by name

A record with optional fields is built from values given in order and values given by name.

- **`bind_named`**: names alone are accepted when each is a known one and nothing has to be given.
-/

namespace TableGateway

/-- Is the value one of these names? -/
def Value.isOneOf (names : List String) : Value → Bool
  | .text s => names.contains s
  | _ => false

theorem Value.isText_of_isOneOf {names : List String} {k : Value} (h : k.isOneOf names = true) : k.isText = true := by
  cases k with
  | text s => rfl
  | _ => cases h

/-- The parameters of a record: those that may be given in order, those given by name only, and those that must be
given. -/
structure Signature where
  ordered : List String
  named : List String := []
  required : List String := []

namespace Signature

/-- Is the name free to be given? -/
def takes (s : Signature) (taken : List String) (k : Value) : Bool :=
  k.isOneOf (s.ordered ++ s.named) && !k.isOneOf taken

/-- All arguments by name, or a fault when there are too many, one is unknown or given twice, or one is missing. -/
def bind (s : Signature) (inOrder : List Value) (byName : Keyed Value) : Except Fault (Keyed Value) :=
  let taken := s.ordered.take inOrder.length
  let all : Keyed Value := ⟨(taken.map Value.text).zip inOrder ++ byName.entries⟩
  if inOrder.length ≤ s.ordered.length ∧ byName.keys.all (s.takes taken) ∧ s.required.all (fun n => all.has (.text n))
  then .ok all
  else .error .wrongKind

theorem takes_of_isOneOf {s : Signature} {k : Value} (known : k.isOneOf s.ordered = true) : s.takes [] k = true := by
  cases k with
  | text n => simp_all [takes, Value.isOneOf]
  | _ => cases known

theorem bind_named {s : Signature} {t : Keyed Value} (optional : s.required = [])
    (known : ∀ k ∈ t.keys, k.isOneOf s.ordered = true) : s.bind [] t = .ok t := by
  have taken : t.keys.all (s.takes []) = true := List.all_eq_true.2 fun k key => takes_of_isOneOf (known k key)
  have whole : (⟨t.entries⟩ : Keyed Value) = t := rfl
  simp [bind, optional, taken, whole]

end Signature

end TableGateway
