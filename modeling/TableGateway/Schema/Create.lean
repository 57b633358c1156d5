import TableGateway.Schema
import TableGateway.Sql.Dialect
import TableGateway.Sql.Statement

/-!
# Creating tables

The statement that creates a table lists its columns in order. A key column has the key type and says how it is a
key; every other column has its native type, a length where one applies, and whether a value is required.

- **`column_counted`**, **`column_primary`**: a key column's text depends on its name and the key type alone.
-/

namespace TableGateway.Schema

/-- The length that a column of this native type is written with, if any. -/
def columnLength (native : String) (a : Attribute) : Value :=
  a.length.orElse (match NativeType.defaultLength? native with
    | some n => .int n
    | none => .null)

/-- The native type of a column with its length. -/
def columnType (a : Attribute) : Except Error String := do
  let native ← LogicalType.nativeOf (Attribute.typeValue a.type)
  let length := columnLength native a
  return if length.isTruthy then native ++ "(" ++ length.shown ++ ")" else native

/-- What the statement says about one column. -/
def columnDefinition (keyType : String) (name : Value) (a : Attribute) : Except Error String :=
  match a.role with
  | .counted => .ok (name.shown ++ " " ++ keyType ++ " GENERATED ALWAYS AS IDENTITY PRIMARY KEY")
  | .primary => .ok (name.shown ++ " " ++ keyType ++ " NOT NULL PRIMARY KEY")
  | .plain => (columnType a).map fun t =>
      name.shown ++ " " ++ t ++ (if a.required.isTruthy then " NOT NULL" else " WITH DEFAULT")

/-- What it says about all columns. -/
def columnDefinitions (keyType : String) : List (Value × Attribute) → Except Error (List String)
  | [] => .ok []
  | (name, a) :: es => do
    let c ← columnDefinition keyType name a
    let cs ← columnDefinitions keyType es
    return c :: cs

/-- The statement that creates a table of this name with the schema's columns. -/
def createTable (d : Dialect) (keyType : String) (table : Value) (s : Schema) : Except Failure Statement := do
  let columns ← columnDefinitions keyType s.attributes.entries
  let name ← d.tableName table
  return ⟨"CREATE TABLE " ++ name.shown ++ " (" ++ ", ".intercalate columns ++ ")", []⟩

/-- The statement for a table that may be described or given as a schema. -/
def createDescribed (d : Dialect) (keyType : String) (table : Value) : Description → Except Failure Statement
  | .schema s => createTable d keyType table s
  | described => do createTable d keyType table (← ofDescription table described)

theorem column_counted (keyType : String) (name : Value) {a : Attribute} (h : a.role = .counted) :
    columnDefinition keyType name a =
      .ok (name.shown ++ " " ++ keyType ++ " GENERATED ALWAYS AS IDENTITY PRIMARY KEY") := by
  simp [columnDefinition, h]

theorem column_primary (keyType : String) (name : Value) {a : Attribute} (h : a.role = .primary) :
    columnDefinition keyType name a = .ok (name.shown ++ " " ++ keyType ++ " NOT NULL PRIMARY KEY") := by
  simp [columnDefinition, h]

end TableGateway.Schema
