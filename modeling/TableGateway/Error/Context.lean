import TableGateway.Keyed

/-!
# Where an error happened

The context of an error names the connection, the schema, the table and the statement concerned, and holds notes of
any other name. A note of one of the four names wins over the field when both are shown. Notes may be given as any
value; what is no mapping is read as pairs when it is shown, and takes no more notes. A context is kept as a record,
so a value under the name of one of a record's own workings goes there and is not shown, and a value under the name of
the record's store replaces everything that the context holds.

- **`within_eq_addAll`**: a call on a schema adds the connection and the schema.
-/

namespace TableGateway

structure Context where
  identity : Value := .null
  schemaName : Value := .null
  table : Value := .null
  sql : Value := .null
  /-- The notes; only a store put in place of the first one can lack them. -/
  notes : Option Value := some (.map [])
  /-- The other names under which the record holds something, which is not shown. -/
  held : List String := []

namespace Context

/-- The name under which a context is read. -/
def readerName : String := "to_dict"

/-- The name under which the notes are kept. -/
def notesName : String := "metadata"

/-- Names that every record has for its own workings; a value given under one of them is not shown. -/
def ownNames : List String :=
  [readerName, "__annotations__", "__dataclass_fields__", "__dataclass_params__", "__delattr__", "__dir__", "__doc__",
    "__eq__", "__format__", "__ge__", "__getattribute__", "__getstate__", "__gt__", "__hash__", "__init__",
    "__init_subclass__", "__le__", "__lt__", "__match_args__", "__module__", "__ne__", "__new__", "__reduce__",
    "__reduce_ex__", "__repr__", "__setattr__", "__sizeof__", "__str__", "__subclasshook__"]

/-- Names of a record's workings that take no value, with the fault of trying. -/
def fixedNames : List (String × Fault) :=
  [("__class__", .wrongKind), ("__weakref__", .noSuchOperation)]

/-- The name of the store behind a record. -/
def storeName : String := "__dict__"

/-- The text that a key is. -/
def nameOf? : Value → Option String
  | .text s => some s
  | _ => none

/-- The context that a store holds. -/
def ofStore (store : Keyed Value) : Context :=
  { identity := store.getD "identity" .null, schemaName := store.getD "schema_name" .null,
    table := store.getD "table" .null, sql := store.getD "sql" .null, notes := store.lookup (.text notesName),
    held := (store.keys.filterMap nameOf?).filter fun n => n != notesName }

/-- Notes with a value under one more name. -/
def addNote (name : String) (v : Value) : Option Value → Except Fault Value
  | some (.map es) => .ok (.ofKeyed (Keyed.put ⟨es⟩ (.text name) v))
  | some _ => .error .wrongKind
  | none => .error .noSuchOperation

/-- The context with a value under a name. -/
def add (c : Context) (name : String) (v : Value) : Except Fault Context :=
  if name = "identity" then .ok { c with identity := v }
  else if name = "schema_name" then .ok { c with schemaName := v }
  else if name = "table" then .ok { c with table := v }
  else if name = "sql" then .ok { c with sql := v }
  else match fixedNames.lookup name with
    | some f => .error f
    | none =>
      if name = storeName then
        match v with
        | .map es => .ok (ofStore ⟨es⟩)
        | _ => .error .wrongKind
      else if name ∈ ownNames ∨ name ∈ c.held then .ok { c with held := name :: c.held }
      else (addNote name v c.notes).map fun notes => { c with notes := some notes }

/-- The context with several values, in turn. -/
def addAll (c : Context) (entries : List (String × Value)) : Except Fault Context :=
  entries.foldlM (fun c e => c.add e.1 e.2) c

/-- The entry of a field that has a value. -/
def fieldEntry (name : String) (v : Value) : List (Value × Value) :=
  if v.isNull then [] else [(.text name, v)]

/-- The fields that have a value. -/
def fields (c : Context) : Keyed Value :=
  ⟨fieldEntry "identity" c.identity ++ fieldEntry "schema_name" c.schemaName ++ fieldEntry "table" c.table ++
    fieldEntry "sql" c.sql⟩

/-- The fields with the notes over them. -/
def withNotes (c : Context) (notes : List (Value × Value)) : Keyed Value :=
  notes.foldl (fun t e => t.put e.1 e.2) c.fields

/-- Everything the context shows, unless its reading has been overwritten or its notes are lost. -/
def toKeyed (c : Context) : Except Fault (Keyed Value) :=
  if readerName ∈ c.held then .error .wrongKind
  else match c.notes with
    | none => .error .noSuchOperation
    | some notes => if notes.isTruthy then notes.pairs?.map c.withNotes else .ok c.fields

/-- The context of a call on a schema of a connection. -/
def within (c : Context) (identity schemaName : Value) : Context :=
  { c with identity := identity, schemaName := schemaName }

/-- The context of a statement. -/
def executing (c : Context) (sql : String) : Context := { c with sql := .text sql }

theorem within_eq_addAll (c : Context) (identity schemaName : Value) :
    c.addAll [("identity", identity), ("schema_name", schemaName)] = .ok (c.within identity schemaName) := rfl

end Context

end TableGateway
