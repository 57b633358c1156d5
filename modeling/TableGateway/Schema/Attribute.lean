import TableGateway.Arguments
import TableGateway.ColumnType

/-!
# Attributes

An `Attribute` describes one column without the engine's words. Its key role says whether the column identifies the
rows, and whether the engine counts it up; a counted column always identifies. Whether a value is required is a flag
when it is read from a description; an attribute made of its parts keeps what it was given, which counts or does not.

- **`ofMapping_toKeyed`**: an attribute with a flag is read back from the mapping it is written to.
- **`ofRecord?_toRecord`**: an attribute can be handed on as a value.
- **`primaryKey_of_autoIncrement`**: counted columns are primary keys.
-/

namespace TableGateway

/-- The part of a column in telling rows apart. -/
inductive KeyRole where
  | plain
  | primary
  /-- A primary key that the engine counts up. -/
  | counted
  deriving DecidableEq, Repr

structure Attribute where
  /-- What the column holds; nothing when the engine's type has no logical one. -/
  type : Option LogicalType := some .string
  length : Value := .null
  maxLength : Value := .null
  /-- Must a value be given? So it must when this counts as given. -/
  required : Value := .bool false
  role : KeyRole := .plain
  unique : Bool := false

namespace Attribute

def primaryKey (a : Attribute) : Bool := a.role != .plain

def autoIncrement (a : Attribute) : Bool := a.role == .counted

/-- The role of a column that is a key, is counted, or both. -/
def roleOf (primary counted : Bool) : KeyRole :=
  if counted then .counted else if primary then .primary else .plain

/-- The logical type that a description gives: nothing for nothing, else what it names. -/
def readType : Value → Except Error (Option LogicalType)
  | .null => .ok none
  | v =>
    match LogicalType.ofValue? v with
    | some t => .ok (some t)
    | none => .error (.of (.unknownLogicalType v))

/-- The first of two names that is in the table, or a default. -/
def either (t : Keyed Value) (first second : String) (d : Value) : Value :=
  t.getD first (t.getD second d)

/-- An attribute from a table of its parts, each part under its usual name or the one beside it. -/
def read (t : Keyed Value) (maxLength required primaryKey autoIncrement : Value) : Except Error Attribute :=
  (readType (t.getD "type" (.text LogicalType.string.name))).map fun type =>
    { type := type, length := t.getD "length" .null, maxLength := maxLength, required := required,
      role := roleOf primaryKey.isTruthy autoIncrement.isTruthy,
      unique := (t.getD "unique" (.bool false)).isTruthy }

/-- The parts of an attribute. -/
def signature : Signature :=
  ⟨["type", "length", "max_length", "required", "primary_key", "auto_increment", "unique"], [], []⟩

/-- What says whether a value is required. -/
def requirement (t : Keyed Value) : Value := t.getD "required" (.bool false)

/-- An attribute from its parts. -/
def ofParts (parts : Keyed Value) : Except Failure Attribute := do
  let t ← signature.bind [] parts
  read t (t.getD "max_length" .null) (requirement t) (t.getD "primary_key" .null) (t.getD "auto_increment" .null)

/-- An attribute from the mapping that a caller describes it by; unknown entries are passed over. -/
def ofMapping (t : Keyed Value) : Except Error Attribute :=
  read t (either t "maxLength" "max_length" .null) (.bool (requirement t).isTruthy)
    (either t "primaryKey" "primary_key" (.bool false)) (either t "autoIncrement" "auto_increment" (.bool false))

/-- The entry of a flag that is set. -/
def flagEntry (set : Bool) (name : String) : List (Value × Value) :=
  if set then [(.text name, .bool true)] else []

/-- The entry of a length that is given. -/
def lengthEntry (v : Value) (name : String) : List (Value × Value) :=
  if v.isNull then [] else [(.text name, v)]

/-- The name of a type, if there is one. -/
def typeValue : Option LogicalType → Value
  | some t => .text t.name
  | none => .null

/-- The mapping that describes the attribute. -/
def toKeyed (a : Attribute) : Keyed Value :=
  ⟨(.text "type", typeValue a.type) :: (lengthEntry a.length "length" ++ lengthEntry a.maxLength "maxLength" ++
    (.text "required", a.required) :: (flagEntry a.primaryKey "primaryKey" ++
      flagEntry a.autoIncrement "autoIncrement" ++ flagEntry a.unique "unique"))⟩

/-- The parts of an attribute under their names. -/
def parts (a : Attribute) : List (String × Value) :=
  [("type", typeValue a.type), ("length", a.length), ("max_length", a.maxLength), ("required", a.required),
    ("primary_key", .bool a.primaryKey), ("auto_increment", .bool a.autoIncrement), ("unique", .bool a.unique)]

/-- The attribute as a value. -/
def toRecord (a : Attribute) : Value := .record .attribute a.parts

/-- The attribute that a value is. -/
def ofRecord? : Value → Option Attribute
  | .record .attribute parts => (ofParts ⟨parts.map fun p => (.text p.1, p.2)⟩).toOption
  | _ => none

/-! ## Reading back -/

theorem primaryKey_of_autoIncrement {a : Attribute} (h : a.autoIncrement = true) : a.primaryKey = true := by
  cases a with
  | mk type length maxLength required role unique => cases role <;> simp_all [autoIncrement, primaryKey]

theorem readType_typeValue (t : Option LogicalType) : readType (typeValue t) = .ok t := by
  cases t with
  | none => rfl
  | some t => simp [typeValue, readType, LogicalType.ofValue?, LogicalType.ofName?_name]

/-- An attribute is the same when it has been a value. -/
theorem ofRecord?_toRecord (a : Attribute) : ofRecord? a.toRecord = some a := by
  obtain ⟨type, length, maxLength, required, role, unique⟩ := a
  have ht := readType_typeValue type
  have bound (t : Keyed Value) (h : t.keys = signature.ordered.map .text) : signature.bind [] t = .ok t := by
    apply Signature.bind_named rfl
    rw [h]
    decide
  show (ofParts _).toOption = _
  unfold ofParts parts
  rw [bound _ rfl]
  show (liftM (read _ maxLength required _ _) : Except Failure Attribute).toOption = _
  cases role <;> cases unique <;>
    simp [read, Keyed.getD, Keyed.lookup, Keyed.lookupIn, ht, Except.map, roleOf, Value.isTruthy, primaryKey,
      autoIncrement, liftM, monadLift, MonadLift.monadLift, MonadLiftT.monadLift, Except.toOption]

/-- Whether a value is required is told by a flag. -/
def HasFlag (a : Attribute) : Prop := ∃ b, a.required = .bool b

/-- An attribute that is read from a description has a flag. -/
theorem hasFlag_of_ofMapping {t : Keyed Value} {a : Attribute} (h : ofMapping t = .ok a) : a.HasFlag := by
  unfold ofMapping read at h
  cases ht : readType (t.getD "type" (.text LogicalType.string.name)) with
  | error e => rw [ht] at h; cases h
  | ok type => rw [ht] at h; cases h; exact ⟨_, rfl⟩

/-- A length is absent exactly when there is nothing to say. -/
theorem eq_null_of_isNull {v : Value} (h : v.isNull = true) : v = .null := by
  cases v <;> simp_all [Value.isNull]

/-- A description that an attribute wrote describes that attribute. -/
theorem ofMapping_toKeyed {a : Attribute} (h : a.HasFlag) : ofMapping a.toKeyed = .ok a := by
  obtain ⟨type, length, maxLength, required, role, unique⟩ := a
  obtain ⟨b, rfl⟩ : ∃ b, required = .bool b := h
  have ht := readType_typeValue type
  have nl := @eq_null_of_isNull length
  have nm := @eq_null_of_isNull maxLength
  cases hl : length.isNull <;> cases hm : maxLength.isNull <;> cases role <;> cases unique <;>
    simp [ofMapping, read, either, requirement, toKeyed, lengthEntry, flagEntry, hl, hm, primaryKey, autoIncrement,
      Keyed.getD, Keyed.lookup, Keyed.lookupIn, ht, Except.map, roleOf, Value.isTruthy] <;>
    simp_all

end Attribute

end TableGateway
