import TableGateway.Value

/-!
# Ordered tables

A `Keyed` table holds entries under distinct keys, in the order in which the keys first came. Writing under a key
that is there changes its value and nothing else; a new key goes to the end.

- **`lookup_put`**: reading after writing.
- **`keys_put`**: the keys after writing.
- **`lookup_erase`**: reading after erasing.
- **`has_text`**: a text is a key of the table exactly when it is among the keys.
-/

namespace TableGateway

/-- Entries under keys, in order. -/
structure Keyed (β : Type) where
  entries : List (Value × β) := []

namespace Keyed

variable {β γ : Type}

/-! ## On the entries -/

/-- The value under a key. -/
def lookupIn : List (Value × β) → Value → Option β
  | [], _ => none
  | (a, v) :: t, k => if k.same a then some v else lookupIn t k

/-- The entries with `v` under `k`. -/
def putIn : List (Value × β) → Value → β → List (Value × β)
  | [], k, v => [(k, v)]
  | (a, w) :: t, k, v => if k.same a then (a, v) :: t else (a, w) :: putIn t k v

/-- The entries without the one under `k`. -/
def eraseIn : List (Value × β) → Value → List (Value × β)
  | [], _ => []
  | (a, w) :: t, k => if k.same a then eraseIn t k else (a, w) :: eraseIn t k

theorem same_congr {a b c : Value} (h : a.same b = true) : a.same c = b.same c := by
  rw [Bool.eq_iff_iff]
  exact ⟨fun g => Value.same_trans (by rwa [Value.same_comm]) g, Value.same_trans h⟩

theorem same_congr_right {a b c : Value} (h : a.same b = true) : c.same a = c.same b := by
  rw [Value.same_comm c, Value.same_comm c, same_congr h]

theorem same_self_of {k l : Value} (h : k.same l = true) : k.same k = true :=
  Value.same_trans h (by rwa [Value.same_comm])

/-- Two keys that are the same as a third are the same. -/
theorem not_same_of {k l a : Value} (hk : ¬k.same a = true) (hl : l.same a = true) : l.same k = false := by
  rw [Bool.eq_false_iff]
  exact fun g => hk (by rwa [← same_congr g])

theorem lookupIn_putIn {t : List (Value × β)} {k l : Value} {v : β} :
    lookupIn (putIn t k v) l = if l.same k then some v else lookupIn t l := by
  induction t with
  | nil => rfl
  | cons e t ih =>
    obtain ⟨a, w⟩ := e
    by_cases hk : k.same a = true
    · simp only [putIn, hk, lookupIn, if_true, same_congr_right hk]
      split <;> rfl
    · simp only [putIn, hk, lookupIn]
      by_cases hl : l.same a = true
      · simp [lookupIn, hl, not_same_of hk hl]
      · simp [lookupIn, ih, hl]

theorem map_fst_putIn {t : List (Value × β)} {k : Value} {v : β} :
    (putIn t k v).map Prod.fst = if (lookupIn t k).isSome then t.map Prod.fst else t.map Prod.fst ++ [k] := by
  induction t with
  | nil => rfl
  | cons e t ih =>
    obtain ⟨a, w⟩ := e
    by_cases hk : k.same a = true
    · simp [putIn, lookupIn, hk]
    · simp only [putIn, lookupIn, hk]
      simp only [Bool.false_eq_true, if_false, List.map_cons, ih]
      split <;> simp

theorem lookupIn_eraseIn {t : List (Value × β)} {k l : Value} :
    lookupIn (eraseIn t k) l = if l.same k then none else lookupIn t l := by
  induction t with
  | nil => simp [eraseIn, lookupIn]
  | cons e t ih =>
    obtain ⟨a, w⟩ := e
    by_cases hk : k.same a = true
    · simp only [eraseIn, hk, if_true, ih, lookupIn, same_congr_right hk]
      split <;> rfl
    · simp only [eraseIn, hk, lookupIn]
      by_cases hl : l.same a = true
      · simp [lookupIn, hl, not_same_of hk hl]
      · simp [lookupIn, ih, hl]

theorem lookupIn_text {t : List (Value × β)} {s : String} :
    (lookupIn t (.text s)).isSome = true ↔ .text s ∈ t.map Prod.fst := by
  induction t with
  | nil => simp [lookupIn]
  | cons e t ih =>
    obtain ⟨a, w⟩ := e
    by_cases h : (Value.text s).same a = true
    · have := Value.same_text.1 h
      subst this
      simp [lookupIn, h]
    · have : Value.text s ≠ a := fun e => h (Value.same_text.2 e.symm)
      simp only [lookupIn, h, List.map_cons, List.mem_cons, this, false_or]
      exact ih

/-! ## On the table -/

/-- The value under a key. -/
def lookup (t : Keyed β) (k : Value) : Option β := lookupIn t.entries k

/-- Is there an entry under this key? -/
def has (t : Keyed β) (k : Value) : Bool := (t.lookup k).isSome

/-- The table with `v` under `k`. -/
def put (t : Keyed β) (k : Value) (v : β) : Keyed β := ⟨putIn t.entries k v⟩

/-- The table without the entry under `k`. -/
def erase (t : Keyed β) (k : Value) : Keyed β := ⟨eraseIn t.entries k⟩

/-- The keys, in order. -/
def keys (t : Keyed β) : List Value := t.entries.map Prod.fst

/-- The values, in order. -/
def values (t : Keyed β) : List β := t.entries.map Prod.snd

def isEmpty (t : Keyed β) : Bool := t.entries.isEmpty

/-- The table with other values under the same keys. -/
def map (f : β → γ) (t : Keyed β) : Keyed γ := ⟨t.entries.map fun e => (e.1, f e.2)⟩

/-- The value under a text, or a default. -/
def getD (t : Keyed β) (name : String) (d : β) : β := (t.lookup (.text name)).getD d

/-- The value under what has to be a key. -/
def find (t : Keyed β) (k : Value) : Except Fault (Option β) :=
  if k.isKey then .ok (t.lookup k) else .error .wrongKind

/-- The table with all these entries written in turn. -/
def ofList (es : List (Value × β)) : Keyed β :=
  es.foldl (fun t e => t.put e.1 e.2) ⟨[]⟩

/-- The table with all these entries written in turn, or a fault when one of them has no key. -/
def ofPairs (es : List (Value × β)) : Except Fault (Keyed β) :=
  if es.all (·.1.isKey) then .ok (ofList es) else .error .wrongKind

theorem lookup_put {t : Keyed β} {k l : Value} {v : β} :
    (t.put k v).lookup l = if l.same k then some v else t.lookup l := lookupIn_putIn

theorem keys_put {t : Keyed β} {k : Value} {v : β} :
    (t.put k v).keys = if t.has k then t.keys else t.keys ++ [k] := map_fst_putIn

theorem lookup_erase {t : Keyed β} {k l : Value} :
    (t.erase k).lookup l = if l.same k then none else t.lookup l := lookupIn_eraseIn

theorem has_text {t : Keyed β} {s : String} : t.has (.text s) = true ↔ .text s ∈ t.keys := lookupIn_text

theorem find_text {t : Keyed β} {s : String} : t.find (.text s) = .ok (t.lookup (.text s)) := rfl

end Keyed

namespace Value

/-- The table that a mapping is; nothing else has entries. -/
def entries? : Value → Except Fault (Keyed Value)
  | .map es => .ok ⟨es⟩
  | _ => .error .noSuchOperation

/-- A key and the value under it. -/
def pair : Value → Except Fault (Value × Value)
  | v => do
    match ← v.members? with
    | [k, w] => if k.isKey then return (k, w) else throw .wrongKind
    | _ => throw .badValue

/-- The entries that a mapping has, or that the pairs in another collection are. -/
def pairs? : Value → Except Fault (List (Value × Value))
  | .map es => .ok es
  | v => do (← v.members?).mapM pair

/-- A table as a mapping. -/
def ofKeyed (t : Keyed Value) : Value := .map t.entries

end Value

end TableGateway
