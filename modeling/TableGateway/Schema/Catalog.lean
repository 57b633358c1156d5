import TableGateway.Journal.Note
import TableGateway.Schema
import TableGateway.Sql.Dialect
import TableGateway.Sql.Statement

/-!
# The catalog

The engine's catalog holds one row for every column of a table. `describe` asks for the rows and `read` makes a
schema of them. A row whose type has no logical one is noted and kept; of two rows with one column name the later
one counts, at the place of the earlier.
-/

namespace TableGateway.Catalog

/-- The view that holds the columns of all tables. -/
def columnsView : String := "SYSCAT.COLUMNS"

/-- The statement that asks for the columns of a table. -/
def describe (d : Dialect) (table : Value) : Except Fault Statement := do
  let literal ← Dialect.escapeLiteral (← d.catalogName table)
  return ⟨"SELECT COLNAME, TYPENAME, LENGTH, NULLS, DEFAULT, IDENTITY FROM " ++ columnsView ++
    " WHERE TABSCHEMA = (CURRENT SCHEMA) AND TABNAME = " ++ literal ++ " ORDER BY COLNO", []⟩

/-! ## Reading one row -/

/-- The text of an entry without blanks at its ends; empty when nothing is given. -/
def stripped (v : Value) : Except Fault String := (v.orElse (.text "")).writeShown.map Text.strip

/-- Does an entry say so by one letter, in either case? -/
def saysLetter (letter : String) (v : Value) : Except Fault Bool := (stripped v).map fun t => Text.upper t == letter

/-- The number that a default is, if it is one; truth values are none. A whole number has to be written first. -/
def numericDefault : Value → Except Fault (Option Decimal)
  | .null | .bool _ => .ok none
  | .int n => (Integer.text n).map Decimal.parse
  | v => .ok (Decimal.parse (Text.strip v.shown))

/-- Is the number zero? A signaling one cannot be compared. -/
def comparesToZero (n : Decimal) : Except Fault Bool :=
  if n.isSignaling then .error .decimalSignal else .ok n.isZero

/-- Must a value be given? So it is when nothing may be missing and the default is of no use: no number, or zero. -/
def isRequired (nulls default : Value) : Except Fault Bool := do
  if ← saysLetter "N" nulls then
    match ← numericDefault default with
    | none => return true
    | some n => comparesToZero n
  else return false

/-- An entry of a row. -/
def entry (row : Keyed Value) (name : String) : Value := row.getD name .null

/-- The type that a row names. -/
def typeName (row : Keyed Value) : Except Fault String := stripped (entry row "TYPENAME")

/-- The note on a type without a logical one. -/
def unmappedNote (table : Value) (row : Keyed Value) (type : String) : Note :=
  ⟨.catalog, .warning, "unmapped_native_type",
    [("table", table), ("column", entry row "COLNAME"), ("type_name", .text type)]⟩

/-- The notes that a row gives rise to. -/
def notesOf (table : Value) (row : Keyed Value) : List Note :=
  match typeName row with
  | .error _ => []
  | .ok type =>
    match NativeType.logical? type with
    | none => [unmappedNote table row type]
    | some _ => []

/-- The attribute of a row's column. -/
def attributeOf (row : Keyed Value) : Except Fault Attribute := do
  let type ← typeName row
  let required ← isRequired (entry row "NULLS") (entry row "DEFAULT")
  let counted ← saysLetter "Y" (entry row "IDENTITY")
  return { type := NativeType.logical? type, maxLength := entry row "LENGTH", required := .bool required,
           role := if counted then .counted else .plain, unique := counted }

/-- The column of a row, which has to name it. -/
def columnOf (row : Keyed Value) : Except Fault (Value × Attribute) := do
  let a ← attributeOf row
  match row.lookup (.text "COLNAME") with
  | some name => return (.text (Text.strip (← name.writeShown)), a)
  | none => throw .missingKey

/-- The notes and the column of a row. -/
def readRow (table : Value) : Value → List Note × Except Fault (Value × Attribute)
  | .map es => (notesOf table ⟨es⟩, columnOf ⟨es⟩)
  | _ => ([], .error .noSuchOperation)

/-! ## Reading all rows -/

/-- The notes on the rows and their columns added to those there are; the first fault ends it. -/
def readRows (table : Value) : List Value → Keyed Attribute → List Note × Except Fault (Keyed Attribute)
  | [], done => ([], .ok done)
  | row :: rows, done =>
    match readRow table row with
    | (notes, .error f) => (notes, .error f)
    | (notes, .ok (name, a)) =>
      let (more, r) := readRows table rows (done.put name a)
      (notes ++ more, r)

/-- The schema that the rows describe, if there are any, and the notes on them. -/
def read (table : Value) (rows : List Value) : List Note × Except Fault (Option Schema) :=
  if rows.isEmpty then ([], .ok none)
  else
    let (notes, r) := readRows table rows {}
    (notes, r.map fun as => some { table := table, attributes := as })

end TableGateway.Catalog
