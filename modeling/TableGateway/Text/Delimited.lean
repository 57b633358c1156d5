/-!
# Delimited texts

A delimited text stands between two quotes, and a quote inside it is written twice. This is the form of a quoted
identifier and of a string literal in SQL.

- **`readDelimited_delimit`**: reading stops at the closing quote and gives the text back, whatever follows, as
  long as that does not begin with another quote.
- **`count_double`**: inside, a quote is written twice and all else once.
-/

namespace TableGateway.Text

/-- Every quote twice. -/
def double (q : Char) : List Char → List Char
  | [] => []
  | c :: r => if c = q then q :: q :: double q r else c :: double q r

/-- A text between quotes. -/
def delimit (q : Char) (s : String) : String :=
  String.ofList (q :: (double q s.toList ++ [q]))

/-- Reads up to the first quote that is not doubled: the text before it, and what follows it. -/
def readBody (q : Char) : List Char → Option (List Char × List Char)
  | [] => none
  | [c] => if c = q then some ([], []) else none
  | c :: d :: r =>
    if c = q then
      if d = q then (readBody q r).map fun (s, t) => (q :: s, t) else some ([], d :: r)
    else (readBody q (d :: r)).map fun (s, t) => (c :: s, t)

/-- Reads a delimited text at the start of the characters. -/
def readDelimited (q : Char) : List Char → Option (List Char × List Char)
  | [] => none
  | c :: r => if c = q then readBody q r else none

theorem toList_delimit (q : Char) (s : String) : (delimit q s).toList = q :: (double q s.toList ++ [q]) := by
  simp [delimit]

theorem count_double (q x : Char) (cs : List Char) :
    (double q cs).count x = (if x = q then 2 else 1) * cs.count x := by
  induction cs with
  | nil => rfl
  | cons c r ih => by_cases h : c = q <;> by_cases hx : x = c <;> grind [double]

theorem mem_double {q x : Char} {cs : List Char} (among : x ∈ double q cs) : x ∈ cs := by
  have some := List.count_pos_iff.2 among
  rw [count_double] at some
  exact List.count_pos_iff.1 (Nat.pos_of_mul_pos_left some)

theorem readBody_double (q : Char) (cs rest : List Char) (h : ∀ c ∈ rest.head?, c ≠ q) :
    readBody q (double q cs ++ q :: rest) = some (cs, rest) := by
  induction cs with
  | nil => cases rest <;> simp_all [double, readBody]
  | cons c r ih =>
    by_cases hc : c = q
    · subst hc
      simp [double, readBody, ih]
    · rw [double, if_neg hc, List.cons_append]
      cases e : double q r ++ q :: rest with
      | nil => simp at e
      | cons d u => rw [readBody, if_neg hc, ← e, ih]; rfl

theorem readDelimited_delimit (q : Char) (s : String) (rest : List Char) (h : ∀ c ∈ rest.head?, c ≠ q) :
    readDelimited q ((delimit q s).toList ++ rest) = some (s.toList, rest) := by
  simp [toList_delimit, readDelimited, readBody_double q s.toList rest h]

end TableGateway.Text
