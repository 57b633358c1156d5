import TableGateway.Number.Integer
import TableGateway.Text.Delimited
import TableGateway.Text.Upper
import TableGateway.Value.Text

/-!
# The dialect

How table names, literals, parameters and row limits are written. A quoted table name is taken as it is; the engine
stores an unquoted one in capitals.

- **`escapeLiteral_text`**: a literal is a delimited text, so nothing in a name can end it.
- **`catalogName_text`**: the name under which the catalog knows a table.
- **`fetchFirst_zero`**: no limit is written for zero rows.
-/

namespace TableGateway

structure Dialect where
  /-- Table names are written between double quotes. -/
  quoteTableNames : Bool := false
  deriving DecidableEq, Repr

namespace Dialect

/-- The dialect's name. -/
def name : String := "db2"

/-- What stands for a parameter. -/
def placeholder : String := "?"

/-- A text between quotes `q`; other values cannot be quoted. -/
def quoted (q : Char) : Value → Except Fault String
  | .text s => .ok (Text.delimit q s)
  | .bytes _ => .error .wrongKind
  | _ => .error .noSuchOperation

/-- A string literal. -/
def escapeLiteral (v : Value) : Except Fault String := quoted '\'' v

/-- A table name as statements write it. -/
def tableName (d : Dialect) (table : Value) : Except Fault Value :=
  if d.quoteTableNames then (quoted '"' table).map .text else .ok table

/-- ASCII capitals of a byte string. -/
def upperByte (b : UInt8) : UInt8 := if 97 ≤ b ∧ b ≤ 122 then b - 32 else b

/-- A table name as the catalog stores it. -/
def catalogName (d : Dialect) (table : Value) : Except Fault Value :=
  if d.quoteTableNames then .ok table
  else match table with
    | .text s => .ok (.text (Text.upper s))
    | .bytes bs => .ok (.bytes (bs.map upperByte))
    | _ => .error .noSuchOperation

/-- The clause that limits a change to so many rows: none unless the number is a positive whole one. -/
def fetchFirst : Value → Except Fault String
  | .int n =>
    if 0 < n then (Integer.text n).map fun t => " FETCH FIRST " ++ t ++ " ROWS ONLY" else .ok ""
  | _ => .ok ""

/-- The literal of a dialect. -/
def literal (d : Dialect) : String :=
  "Db2Dialect(quote_table_names=" ++ (Value.bool d.quoteTableNames).literal ++ ")"

@[simp] theorem escapeLiteral_text (s : String) : escapeLiteral (.text s) = .ok (Text.delimit '\'' s) := rfl

theorem catalogName_text (d : Dialect) (s : String) :
    d.catalogName (.text s) = .ok (.text (if d.quoteTableNames then s else Text.upper s)) := by
  unfold catalogName
  split <;> simp_all

theorem fetchFirst_zero : fetchFirst (.int 0) = .ok "" := rfl

end Dialect

end TableGateway
