import TableGateway.Value

/-!
# The order of values

Numbers are ordered by value, texts by their characters, byte strings and lists member by member. Values of
different kinds have no order, and sorting such a list is a fault.

- **`perm_sort`**: sorting keeps the values.
- **`sort_of_text`**: texts can be sorted.
-/

namespace TableGateway.Value

/-- Characters in order. -/
def charsLt : List Char → List Char → Bool
  | _, [] => false
  | [], _ :: _ => true
  | a :: as, b :: bs => a.toNat < b.toNat || (a == b && charsLt as bs)

/-- Bytes in order. -/
def bytesLt : List UInt8 → List UInt8 → Bool
  | _, [] => false
  | [], _ :: _ => true
  | a :: as, b :: bs => a < b || (a == b && bytesLt as bs)

/-- Is one of two numbers less than another? Where one is a decimal both have to be numbers. -/
def numberLess (a b : Value) (x y : Exact) : Except Fault Bool :=
  if (a.isDecimal || b.isDecimal) && (x == .notNumber || y == .notNumber) then .error .decimalSignal
  else .ok (x.lt y)

mutual
/-- Is the first value less than the second? -/
def less : Value → Value → Except Fault Bool
  | .text s, .text t => .ok (charsLt s.toList t.toList)
  | .bytes s, .bytes t => .ok (bytesLt s t)
  | .tuple xs, .tuple ys => lessAll xs ys
  | .list xs, .list ys => lessAll xs ys
  | a, b =>
    match a.number?, b.number? with
    | some x, some y => numberLess a b x y
    | _, _ => .error .wrongKind

/-- The first members that differ decide. -/
def lessAll : List Value → List Value → Except Fault Bool
  | _, [] => .ok false
  | [], _ :: _ => .ok true
  | x :: xs, y :: ys => if x.same y then lessAll xs ys else less x y
end

/-! ## Sorting -/

/-- How many values go on in order from `last`: each of them less than the one before, or each of them not. -/
def runLength (down : Bool) (last : Value) : List Value → Except Fault Nat
  | [] => .ok 0
  | v :: vs => do
    if (← less v last) == down then return 1 + (← runLength down v vs)
    return 0

/-- How many values at the front are in order, and whether downwards. -/
def firstRun : List Value → Except Fault (Bool × Nat)
  | [] => .ok (false, 0)
  | [_] => .ok (false, 1)
  | v :: w :: vs => do
    let down ← less w v
    return (down, 2 + (← runLength down w vs))

/-- The place of a value among values in order, behind those that it is not less than, searched between two places. -/
def placeOf (v : Value) (done : List Value) (low high : Nat) : Except Fault Nat :=
  if low < high then
    let middle := low + (high - low) / 2
    match done[middle]? with
    | none => .ok low
    | some w => do
      if ← less v w then placeOf v done low middle else placeOf v done (middle + 1) high
  else .ok low
termination_by high - low

/-- The values with one more at its place. -/
def insertSorted (done : List Value) (v : Value) : Except Fault (List Value) := do
  let place ← placeOf v done 0 done.length
  return done.take place ++ v :: done.drop place

/-- The values in order; equal ones stay as they were. What stands in order at the front is taken over as it is. -/
def sort (vs : List Value) : Except Fault (List Value) := do
  let (down, n) ← firstRun vs
  let front := if down then (vs.take n).reverse else vs.take n
  (vs.drop n).foldlM insertSorted front

/-! ## The members of what is sorted -/

theorem perm_insertSorted {v : Value} {done r : List Value} (h : insertSorted done v = .ok r) : r.Perm (v :: done) := by
  obtain ⟨place, _, h⟩ := bind_eq_ok h
  cases h
  have middle : (done.take place ++ v :: done.drop place).Perm (v :: (done.take place ++ done.drop place)) :=
    List.perm_middle
  rwa [List.take_append_drop] at middle

theorem perm_foldlM_insertSorted {vs done r : List Value} (h : vs.foldlM insertSorted done = .ok r) :
    r.Perm (done ++ vs) := by
  induction vs generalizing done with
  | nil =>
    cases h
    rw [List.append_nil]
  | cons v vs ih =>
    rw [List.foldlM_cons] at h
    obtain ⟨next, inserted, h⟩ := bind_eq_ok h
    have first := (perm_insertSorted inserted).append_right vs
    exact (ih h).trans (first.trans List.perm_middle.symm)

/-- Sorting keeps the values. -/
theorem perm_sort {vs r : List Value} (h : sort vs = .ok r) : r.Perm vs := by
  obtain ⟨⟨down, n⟩, _, h⟩ := bind_eq_ok h
  have front : (if down then (vs.take n).reverse else vs.take n).Perm (vs.take n) := by
    split
    · exact List.reverse_perm _
    · exact .refl _
  have all := (perm_foldlM_insertSorted h).trans (front.append_right (vs.drop n))
  rwa [List.take_append_drop] at all

/-! ## Texts can be sorted -/

/-- Of two texts, it can always be told which is the lesser. -/
theorem less_of_text {v w : Value} (hv : v.isText = true) (hw : w.isText = true) : ∃ b, less v w = .ok b := by
  cases v with
  | text s =>
    cases w with
    | text t => exact ⟨_, by rw [less]⟩
    | _ => cases hw
  | _ => cases hv

theorem runLength_of_text {down : Bool} {last : Value} {vs : List Value} (hl : last.isText = true)
    (h : ∀ v ∈ vs, v.isText = true) : ∃ n, runLength down last vs = .ok n := by
  induction vs generalizing last with
  | nil => exact ⟨0, rfl⟩
  | cons v vs ih =>
    have first := h v List.mem_cons_self
    obtain ⟨lesser, told⟩ := less_of_text first hl
    obtain ⟨n, rest⟩ := ih first fun w hw => h w (List.mem_cons_of_mem v hw)
    rw [runLength, told, rest]
    by_cases same : (lesser == down) = true
    · exact ⟨1 + n, if_pos same⟩
    · exact ⟨0, if_neg same⟩

theorem firstRun_of_text {vs : List Value} (h : ∀ v ∈ vs, v.isText = true) : ∃ r, firstRun vs = .ok r := by
  cases vs with
  | nil => exact ⟨_, rfl⟩
  | cons v vs =>
    cases vs with
    | nil => exact ⟨_, rfl⟩
    | cons w vs =>
      have first := h v List.mem_cons_self
      have second := h w (List.mem_cons_of_mem v List.mem_cons_self)
      have others : ∀ x ∈ vs, x.isText = true := fun x hx => h x (List.mem_cons_of_mem v (List.mem_cons_of_mem w hx))
      obtain ⟨down, told⟩ := less_of_text second first
      obtain ⟨n, rest⟩ := @runLength_of_text down w vs second others
      refine ⟨(down, 2 + n), ?_⟩
      rw [firstRun, told]
      show (runLength down w vs >>= fun n => Except.ok (down, 2 + n)) = _
      rw [rest]
      rfl

theorem placeOf_of_text {v : Value} {done : List Value} (hv : v.isText = true) (h : ∀ w ∈ done, w.isText = true)
    (low high : Nat) : ∃ n, placeOf v done low high = .ok n := by
  fun_induction placeOf v done low high with
  | case1 low high inside middle none => exact ⟨low, rfl⟩
  | case2 low high inside middle w found below above =>
    obtain ⟨b, told⟩ := less_of_text hv (h w (List.mem_of_getElem? found))
    rw [told]
    cases b with
    | true => exact below
    | false => exact above
  | case3 low high outside => exact ⟨low, rfl⟩

theorem insertSorted_of_text {v : Value} {done : List Value} (hv : v.isText = true) (h : ∀ w ∈ done, w.isText = true) :
    ∃ r, insertSorted done v = .ok r := by
  obtain ⟨place, found⟩ := placeOf_of_text hv h 0 done.length
  rw [insertSorted, found]
  exact ⟨_, rfl⟩

theorem foldlM_of_text {vs done : List Value} (hd : ∀ w ∈ done, w.isText = true) (h : ∀ v ∈ vs, v.isText = true) :
    ∃ r, vs.foldlM insertSorted done = .ok r := by
  induction vs generalizing done with
  | nil => exact ⟨done, rfl⟩
  | cons v vs ih =>
    have first := h v List.mem_cons_self
    obtain ⟨next, inserted⟩ := insertSorted_of_text first hd
    have still : ∀ w ∈ next, w.isText = true := by
      intro w hw
      rcases List.mem_cons.1 ((perm_insertSorted inserted).mem_iff.1 hw) with rfl | old
      · exact first
      · exact hd w old
    rw [List.foldlM_cons, inserted]
    exact ih still fun w hw => h w (List.mem_cons_of_mem v hw)

/-- Texts can be sorted. -/
theorem sort_of_text {vs : List Value} (h : ∀ v ∈ vs, v.isText = true) : ∃ r, sort vs = .ok r := by
  obtain ⟨⟨down, n⟩, front⟩ := firstRun_of_text h
  have taken : ∀ w ∈ (if down then (vs.take n).reverse else vs.take n), w.isText = true := by
    intro w hw
    apply h w
    split at hw
    · exact List.mem_of_mem_take (List.mem_reverse.1 hw)
    · exact List.mem_of_mem_take hw
  obtain ⟨r, done⟩ := foldlM_of_text taken fun w hw => h w (List.mem_of_mem_drop hw)
  refine ⟨r, ?_⟩
  rw [sort, front]
  exact done

end TableGateway.Value
