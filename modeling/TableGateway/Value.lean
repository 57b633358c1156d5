import TableGateway.Fault
import TableGateway.Number.Exact

/-!
# Values

A `Value` is what callers hand over and what rows and parameters hold: nothing, truth values, numbers of three
kinds, texts, bytes, and collections of them. A mapping keeps its entries in the order in which they were added. Where
any value may stand, so may a record that was built before: it has named parts and is no collection.

- **`isTruthy`** tells which values count as given.
- **`same`**: two values are the same key when they have the same parts, numbers by value; this is symmetric and
  transitive (`same_comm`, `same_trans`), and a text is the same only as itself (`same_text`).
- **`isKey_of_key?`**: what has such parts may be a key.
-/

namespace TableGateway

/-- The records that may be handed over as values. -/
inductive RecordKind where
  | attribute
  | schema
  | options
  deriving DecidableEq, Repr

inductive Value where
  | null
  | bool (b : Bool)
  | int (n : Int)
  | float (x : Binary64)
  | decimal (d : Decimal)
  | text (s : String)
  | bytes (bs : List UInt8)
  | list (xs : List Value)
  | tuple (xs : List Value)
  | set (xs : List Value)
  | map (es : List (Value × Value))
  | record (kind : RecordKind) (parts : List (String × Value))

namespace Value

instance : Inhabited Value := ⟨.null⟩

/-! ## Kinds -/

def isNull : Value → Bool
  | .null => true
  | _ => false

def isText : Value → Bool
  | .text _ => true
  | _ => false

def isDecimal : Value → Bool
  | .decimal _ => true
  | _ => false

/-- A mapping, a list, a tuple or a set. -/
def isCollection : Value → Bool
  | .list _ | .tuple _ | .set _ | .map _ => true
  | _ => false

/-- The part of a schema that holds its columns. -/
def columnsPart : String := "attributes"

/-- The columns among the parts of a schema. -/
def columnsIn (parts : List (String × Value)) : List (Value × Value) :=
  match parts.lookup columnsPart with
  | some (.map es) => es
  | _ => []

/-- Everything counts as given but nothing, false, zero, and what is empty; a schema is empty without attributes. -/
def isTruthy : Value → Bool
  | .null => false
  | .bool b => b
  | .int n => n != 0
  | .float x => !x.isZero
  | .decimal d => !d.isZero
  | .text s => !s.isEmpty
  | .bytes bs => !bs.isEmpty
  | .list xs | .tuple xs | .set xs => !xs.isEmpty
  | .map es => !es.isEmpty
  | .record kind parts => kind != .schema || !(columnsIn parts).isEmpty

/-- The value, or `d` when it does not count as given. -/
def orElse (v d : Value) : Value := if v.isTruthy then v else d

/-! ## Keys -/

/-- The number that a value is, truth values being one and zero. -/
def number? : Value → Option Exact
  | .bool b => some (.ofInt (if b then 1 else 0))
  | .int n => some (.ofInt n)
  | .float x => some (.ofBinary64 x)
  | .decimal d => some (.ofDecimal d)
  | _ => none

/-- A part of a key; a tuple comes before its members, a record before its parts. -/
inductive KeyPart where
  | null
  | number (x : Exact)
  | text (s : String)
  | bytes (bs : List UInt8)
  | tuple (size : Nat)
  | record (kind : RecordKind)
  deriving DecidableEq

/-- A number as a key; what is no number matches nothing. -/
def numberKey (x : Exact) : Option (List KeyPart) :=
  if x = .notNumber then none else some [.number x]

mutual
/-- What a value is told by as a key: numbers by value, tuples by their members. -/
def key? : Value → Option (List KeyPart)
  | .null => some [.null]
  | .bool b => numberKey (.ofInt (if b then 1 else 0))
  | .int n => numberKey (.ofInt n)
  | .float x => numberKey (.ofBinary64 x)
  | .decimal d => numberKey (.ofDecimal d)
  | .text s => some [.text s]
  | .bytes bs => some [.bytes bs]
  | .tuple xs => (keys? xs).map (.tuple xs.length :: ·)
  | .record kind ps => (partKeys? ps).map (.record kind :: ·)
  | .list _ | .set _ | .map _ => none

def keys? : List Value → Option (List KeyPart)
  | [] => some []
  | x :: xs => (key? x).bind fun k => (keys? xs).map (k ++ ·)

def partKeys? : List (String × Value) → Option (List KeyPart)
  | [] => some []
  | (_, v) :: ps => (key? v).bind fun k => (partKeys? ps).map (k ++ ·)
end

/-- The same key. -/
def same (a b : Value) : Bool :=
  match a.key? with
  | some k => b.key? == some k
  | none => false

mutual
/-- May the value be a key? Lists, sets and mappings may not, nor may what cannot be compared. -/
def isKey : Value → Bool
  | .list _ | .set _ | .map _ => false
  | .decimal d => !d.isSignaling
  | .tuple xs => areKeys xs
  | .record _ ps => arePartKeys ps
  | _ => true

def areKeys : List Value → Bool
  | [] => true
  | x :: xs => isKey x && areKeys xs

def arePartKeys : List (String × Value) → Bool
  | [] => true
  | (_, v) :: ps => isKey v && arePartKeys ps
end

theorem same_iff {a b : Value} : a.same b = true ↔ ∃ k, a.key? = some k ∧ b.key? = some k := by
  unfold same
  split
  · next k h => simp [h]
  · next h => simp [h]

theorem same_comm (a b : Value) : a.same b = b.same a := by
  rw [Bool.eq_iff_iff, same_iff, same_iff]
  constructor <;> exact fun ⟨k, x, y⟩ => ⟨k, y, x⟩

theorem same_trans {a b c : Value} (h : a.same b = true) (g : b.same c = true) : a.same c = true := by
  rw [same_iff] at *
  obtain ⟨k, ha, hb⟩ := h
  obtain ⟨l, hb', hc⟩ := g
  rw [hb] at hb'
  exact ⟨k, ha, by rw [hc, hb']⟩

theorem numberKey_ne_text {x : Exact} {s : String} : numberKey x ≠ some [.text s] := by
  unfold numberKey
  split <;> simp

@[simp] theorem key?_text (s : String) : (Value.text s).key? = some [.text s] := rfl

theorem key?_eq_text {s : String} {v : Value} : v.key? = some [.text s] ↔ v = .text s := by
  cases v <;> simp [key?, numberKey_ne_text]

theorem same_text {s : String} {v : Value} : (Value.text s).same v = true ↔ v = .text s := by
  simp [same_iff, key?_eq_text]

theorem same_text_right {s : String} {v : Value} : v.same (.text s) = true ↔ v = .text s := by
  rw [same_comm, same_text]

@[simp] theorem same_text_text (s t : String) : (Value.text s).same (.text t) = decide (s = t) := by
  rw [Bool.eq_iff_iff, same_text, decide_eq_true_eq]
  exact ⟨fun h => by cases h; rfl, fun h => by rw [h]⟩

mutual
/-- What is told by its parts as a key may be one. -/
theorem isKey_of_key? : ∀ {v : Value} {ks : List KeyPart}, v.key? = some ks → v.isKey = true
  | .null, _, _ => rfl
  | .bool _, _, _ => rfl
  | .int _, _, _ => rfl
  | .float _, _, _ => rfl
  | .decimal d, _, h => by
    cases d with
    | notNumber => cases h
    | finite => rfl
    | infinite => rfl
  | .text _, _, _ => rfl
  | .bytes _, _, _ => rfl
  | .tuple xs, _, h => by
    obtain ⟨ks, keys, _⟩ := Option.map_eq_some_iff.1 h
    exact areKeys_of_keys? keys
  | .record _ ps, _, h => by
    obtain ⟨ks, keys, _⟩ := Option.map_eq_some_iff.1 h
    exact arePartKeys_of_partKeys? keys

theorem areKeys_of_keys? : ∀ {xs : List Value} {ks : List KeyPart}, keys? xs = some ks → areKeys xs = true
  | [], _, _ => rfl
  | x :: xs, _, h => by
    obtain ⟨k, key, h⟩ := Option.bind_eq_some_iff.1 h
    obtain ⟨ks, keys, _⟩ := Option.map_eq_some_iff.1 h
    rw [areKeys, isKey_of_key? key, areKeys_of_keys? keys]
    rfl

theorem arePartKeys_of_partKeys? : ∀ {ps : List (String × Value)} {ks : List KeyPart}, partKeys? ps = some ks →
    arePartKeys ps = true
  | [], _, _ => rfl
  | (_, v) :: ps, _, h => by
    obtain ⟨k, key, h⟩ := Option.bind_eq_some_iff.1 h
    obtain ⟨ks, keys, _⟩ := Option.map_eq_some_iff.1 h
    rw [arePartKeys, isKey_of_key? key, arePartKeys_of_partKeys? keys]
    rfl
end

@[simp] theorem isTruthy_text (s : String) : (Value.text s).isTruthy = !s.isEmpty := rfl

/-! ## Members -/

/-- The members of a value that can be walked through: a text by characters, bytes by numbers, a mapping by keys. -/
def members? : Value → Except Fault (List Value)
  | .list xs | .tuple xs | .set xs => .ok xs
  | .map es => .ok (es.map Prod.fst)
  | .text s => .ok (s.toList.map fun c => .text (String.singleton c))
  | .bytes bs => .ok (bs.map fun b => .int b.toNat)
  | _ => .error .wrongKind

end Value

end TableGateway
