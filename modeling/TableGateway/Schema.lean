import TableGateway.Schema.Attribute

/-!
# Schemas

A `Schema` is a table name and the attributes of its columns, in order. Callers hand over a `Description`: built
attributes and schemas, mappings that describe them, or mixtures of both. A built schema may also stand where any value
may.

- **`ofRecord?_toRecord`**: a schema can be handed on as a value.
- **`ofDescription_toDescription`**: a schema whose attributes have flags is read back from the mapping it is written
  to.
-/

namespace TableGateway

structure Schema where
  table : Value
  attributes : Keyed Attribute := {}

/-- The schema as a value. -/
def Schema.toRecord (s : Schema) : Value :=
  .record .schema
    [("table_name", s.table), (Value.columnsPart, .ofKeyed (s.attributes.map Attribute.toRecord))]

/-- What a caller hands over to describe a column, a table or several tables. -/
inductive Description where
  /-- A plain value; a mapping describes what its entries describe. -/
  | value (v : Value)
  | attribute (a : Attribute)
  | schema (s : Schema)
  /-- A mapping with built attributes or schemas somewhere in it. -/
  | mapping (entries : List (Value × Description))

namespace Description

instance : Inhabited Description := ⟨.value .null⟩

/-- The entries of a mapping. -/
def entries? : Description → Except Fault (Keyed Description)
  | .value (.map es) => .ok (Keyed.map .value ⟨es⟩)
  | .mapping es => .ok ⟨es⟩
  | _ => .error .noSuchOperation

mutual
/-- The description as a value. -/
def toValue : Description → Value
  | .value v => v
  | .attribute a => a.toRecord
  | .schema s => s.toRecord
  | .mapping es => .map (toValues es)

def toValues : List (Value × Description) → List (Value × Value)
  | [] => []
  | (k, d) :: es => (k, toValue d) :: toValues es
end

/-- The attribute that is described. -/
def attribute? : Description → Except Failure Attribute
  | .attribute a => .ok a
  | .value v => do
    let t ← v.entries?
    Attribute.ofMapping t
  | .mapping es => liftM (Attribute.ofMapping ⟨toValues es⟩)
  | .schema _ => .error (.broken .noSuchOperation)

end Description

namespace Schema

/-- The attributes of a list of columns. -/
def readAttributes : List (Value × Description) → Except Failure (List (Value × Attribute))
  | [] => .ok []
  | (name, d) :: es => do
    let a ← d.attribute?
    let as ← readAttributes es
    return (name, a) :: as

/-- The schema of a table described by a mapping from column names to attributes. -/
def ofDescription (table : Value) (d : Description) : Except Failure Schema := do
  let t ← d.entries?
  return { table := table, attributes := ⟨← readAttributes t.entries⟩ }

/-- The attributes under their names, if all values are attributes. -/
def attributesOf : List (Value × Value) → Option (List (Value × Attribute))
  | [] => some []
  | (k, v) :: es => (Attribute.ofRecord? v).bind fun a => (attributesOf es).map ((k, a) :: ·)

/-- The schema that a value is. -/
def ofRecord? : Value → Option Schema
  | .record .schema parts =>
    (attributesOf (Value.columnsIn parts)).map fun as =>
      { table := (parts.lookup "table_name").getD .null, attributes := ⟨as⟩ }
  | _ => none

/-- The column names, in order. -/
def columns (s : Schema) : List Value := s.attributes.keys

/-- Has every column a logical type? -/
def isUsable (s : Schema) : Bool := s.attributes.values.all (·.type.isSome)

/-- The number of columns. -/
def size (s : Schema) : Nat := s.attributes.entries.length

/-- Is there a column of this name? -/
def hasColumn (s : Schema) (name : Value) : Except Fault Bool :=
  (s.attributes.find name).map Option.isSome

/-- The mapping that describes the schema's columns. -/
def toDescription (s : Schema) : Keyed Value :=
  s.attributes.map fun a => .ofKeyed a.toKeyed

theorem attributesOf_toRecord (es : List (Value × Attribute)) :
    attributesOf (es.map fun e => (e.1, e.2.toRecord)) = some es := by
  induction es with
  | nil => rfl
  | cons e es ih => simp [attributesOf, Attribute.ofRecord?_toRecord, ih]

/-- A schema is the same when it has been a value. -/
theorem ofRecord?_toRecord (s : Schema) : ofRecord? s.toRecord = some s := by
  show (attributesOf (s.attributes.entries.map fun e => (e.1, e.2.toRecord))).map _ = _
  rw [attributesOf_toRecord]
  rfl

theorem readAttributes_toDescription {es : List (Value × Attribute)} (h : ∀ e ∈ es, e.2.HasFlag) :
    readAttributes (es.map fun e => (e.1, .value (.ofKeyed e.2.toKeyed))) = .ok es := by
  induction es with
  | nil => rfl
  | cons e es ih =>
    obtain ⟨name, a⟩ := e
    have ih := ih fun e he => h e (.tail _ he)
    have ha : (Description.value (.ofKeyed a.toKeyed)).attribute? = .ok a := by
      show (liftM (Attribute.ofMapping a.toKeyed) : Except Failure Attribute) = _
      rw [Attribute.ofMapping_toKeyed (h _ (.head _))]
      rfl
    simp only [List.map_cons, readAttributes, ha, ih, bind, Except.bind]
    rfl

/-- A schema is described by the mapping it is written to. -/
theorem ofDescription_toDescription {s : Schema} (flags : ∀ a ∈ s.attributes.values, a.HasFlag) :
    ofDescription s.table (.value (.ofKeyed s.toDescription)) = .ok s := by
  have h : (Description.value (.ofKeyed s.toDescription)).entries? =
      .ok ⟨s.attributes.entries.map fun e => (e.1, .value (.ofKeyed e.2.toKeyed))⟩ := by
    simp [Description.entries?, Value.ofKeyed, toDescription, Keyed.map]
  show (do
    let t ← (liftM (Description.entries? (.value (.ofKeyed s.toDescription))) : Except Failure _)
    return { table := s.table, attributes := ⟨← readAttributes t.entries⟩ } : Except Failure Schema) = _
  rw [h]
  show (do
    return { table := s.table, attributes := ⟨← readAttributes (s.attributes.entries.map _)⟩ } :
      Except Failure Schema) = _
  rw [readAttributes_toDescription fun e he => flags _ (List.mem_map_of_mem he)]
  rfl

end Schema

end TableGateway
