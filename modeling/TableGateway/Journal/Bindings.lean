import TableGateway.Value

/-!
# Bindings

Values can be bound under names for some time; every event logged meanwhile carries them. Binding and unbinding names
are the logging library's, as its documentation describes them. The gateway's own part is the scope: it binds what it is
given, nothing aside, and takes those names away when it is left.

- **`get?_bind`**, **`get?_unbind`**: what a name is bound to afterwards.
- **`get?_leave_enter`**: a scope whose names were unbound before leaves the bindings as it found them.
-/

namespace TableGateway

/-- Names and what is bound under them. -/
structure Bindings where
  entries : List (String × Value) := []

namespace Bindings

/-- What a name is bound to, the first entry counting. -/
def get? (b : Bindings) (name : String) : Option Value := b.entries.lookup name

/-- The bindings with nothing under these names. -/
def unbind (b : Bindings) (names : List String) : Bindings :=
  ⟨b.entries.filter fun e => decide (e.1 ∉ names)⟩

/-- The bindings with a value under one more name. -/
def bindOne (b : Bindings) (name : String) (v : Value) : Bindings :=
  ⟨(name, v) :: (b.unbind [name]).entries⟩

/-- The bindings with these values bound in turn. -/
def bind (b : Bindings) (given : List (String × Value)) : Bindings :=
  given.foldl (fun b e => b.bindOne e.1 e.2) b

/-- What a scope binds: all that is given but nothing. -/
def present (given : List (String × Value)) : List (String × Value) := given.filter fun e => !e.2.isNull

/-- A scope cannot be given anything under the name that stands for the scope itself. -/
def checkScope (given : List (String × Value)) : Except Fault Unit :=
  if given.any fun e => e.1 == "self" then .error .wrongKind else .ok ()

/-- The bindings inside a scope. -/
def enter (b : Bindings) (given : List (String × Value)) : Bindings := b.bind (present given)

/-- The bindings after a scope. -/
def leave (b : Bindings) (given : List (String × Value)) : Bindings := b.unbind ((present given).map Prod.fst)

/-- The bindings together with an event's own fields, which win. -/
def under (b : Bindings) (fields : List (String × Value)) : Bindings :=
  ⟨fields ++ (b.unbind (fields.map Prod.fst)).entries⟩

/-! ## What names are bound to -/

theorem get?_unbind {b : Bindings} {names : List String} {name : String} :
    (b.unbind names).get? name = if name ∈ names then none else b.get? name := by
  obtain ⟨es⟩ := b
  show (es.filter fun e => decide (e.1 ∉ names)).lookup name = if name ∈ names then none else es.lookup name
  induction es with
  | nil => simp
  | cons e es ih =>
    by_cases taken : e.1 ∈ names
    · rw [List.filter_cons_of_neg (by simpa using taken), ih, List.lookup_cons]
      by_cases same : name = e.1
      · simp [same, taken]
      · simp [beq_false_of_ne same]
    · rw [List.filter_cons_of_pos (by simpa using taken), List.lookup_cons, List.lookup_cons, ih]
      by_cases same : name = e.1
      · simp [same, taken]
      · simp [beq_false_of_ne same]

theorem get?_bindOne {b : Bindings} {n name : String} {v : Value} :
    (b.bindOne n v).get? name = if name = n then some v else b.get? name := by
  rw [bindOne, get?, List.lookup_cons]
  by_cases same : name = n
  · simp [same]
  · have others : (b.unbind [n]).get? name = b.get? name := by rw [get?_unbind, if_neg (by simpa using same)]
    rw [beq_false_of_ne same, if_neg same]
    exact others

/-- What a name is bound to after binding: the last value given for it, or else what it was bound to. -/
theorem get?_bind {b : Bindings} {given : List (String × Value)} {name : String} :
    (b.bind given).get? name = (given.reverse.lookup name).or (b.get? name) := by
  induction given generalizing b with
  | nil => rfl
  | cons e given ih =>
    show ((b.bindOne e.1 e.2).bind given).get? name = _
    rw [ih, get?_bindOne, List.reverse_cons, List.lookup_append, List.lookup_cons]
    by_cases same : name = e.1
    · cases given.reverse.lookup name <;> simp [same]
    · simp [same, beq_false_of_ne same]

theorem get?_eq_none {b : Bindings} {name : String} (unbound : name ∉ b.entries.map Prod.fst) : b.get? name = none := by
  rw [get?, List.lookup_eq_none_iff]
  intro e among
  rw [bne_iff_ne]
  rintro rfl
  exact unbound (List.mem_map_of_mem among)

/-- Inside a scope, what it was not given is bound as before. -/
theorem get?_enter_of_not_mem {b : Bindings} {given : List (String × Value)} {name : String}
    (other : name ∉ (present given).map Prod.fst) : (b.enter given).get? name = b.get? name := by
  have unbound : name ∉ (Bindings.mk (present given).reverse).entries.map Prod.fst := by simpa using other
  rw [enter, get?_bind, show (present given).reverse.lookup name = none from get?_eq_none unbound, Option.none_or]

/-- A scope over unbound names leaves no trace. -/
theorem get?_leave_enter {b : Bindings} {given : List (String × Value)} {name : String}
    (fresh : ∀ e ∈ present given, b.get? e.1 = none) : ((b.enter given).leave given).get? name = b.get? name := by
  rw [leave, get?_unbind]
  split
  · next own =>
    obtain ⟨e, he, rfl⟩ := List.mem_map.1 own
    exact (fresh e he).symm
  · next other => exact get?_enter_of_not_mem other

end Bindings

end TableGateway
