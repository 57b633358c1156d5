import TableGateway.Error
import TableGateway.Text.Blank
import TableGateway.Text.Upper

/-!
# Column types

A `LogicalType` is what a column holds, whatever the engine calls it; a native type is the engine's word. Several
native types have one logical type, so going from a native type to a logical one and back need not give the same word.

- **`ofNative_native`**: a logical type comes back from its own native word.
- **`ofName?_name`**: a logical type is told by its name.
-/

namespace TableGateway

/-- What a column holds. -/
inductive LogicalType where
  | string
  | integer
  | float
  | text
  | binary
  | datetime
  | date
  | time
  deriving DecidableEq, Repr

namespace LogicalType

def name : LogicalType → String
  | .string => "string"
  | .integer => "integer"
  | .float => "float"
  | .text => "text"
  | .binary => "binary"
  | .datetime => "datetime"
  | .date => "date"
  | .time => "time"

def all : List LogicalType := [.string, .integer, .float, .text, .binary, .datetime, .date, .time]

/-- The logical type of a name. -/
def ofName? (s : String) : Option LogicalType := all.find? fun t => t.name == s

/-- The logical type that a value names, which must be its name exactly. -/
def ofValue? : Value → Option LogicalType
  | .text s => ofName? s
  | _ => none

/-- The native word for columns of this type. -/
def native : LogicalType → String
  | .string => "VARCHAR"
  | .integer => "INTEGER"
  | .float => "DOUBLE"
  | .text => "CLOB"
  | .binary => "VARBINARY"
  | .datetime => "TIMESTAMP"
  | .date => "DATE"
  | .time => "TIME"

theorem ofName?_name (t : LogicalType) : ofName? t.name = some t := by cases t <;> decide

end LogicalType

namespace NativeType

/-- The logical types of the native words. -/
def logicalTypes : List (String × LogicalType) :=
  [("TIMESTAMP", .datetime), ("TIME", .time), ("DATE", .date), ("BINARY", .binary), ("VARBINARY", .binary),
    ("BLOB", .binary), ("GRAPHIC", .binary), ("VARGRAPHIC", .binary), ("CHARACTER", .string), ("CHAR", .string),
    ("VARCHAR", .string), ("SMALLINT", .integer), ("INTEGER", .integer), ("INT", .integer), ("BIGINT", .integer),
    ("DECIMAL", .float), ("NUMERIC", .float), ("DECFLOAT", .float), ("REAL", .float), ("DOUBLE", .float),
    ("CLOB", .text), ("DBCLOB", .text), ("XML", .text)]

/-- The lengths that columns of some native types have when none is given. -/
def defaultLengths : List (String × Nat) :=
  [("GRAPHIC", 1), ("CHAR", 1), ("CHARACTER", 1), ("BINARY", 1), ("VARCHAR", 32704), ("VARBINARY", 32704),
    ("CLOB", 2147483647), ("BLOB", 1024), ("DBCLOB", 512)]

/-- The word as the catalog spells it: without blanks at its ends, in capitals. -/
def canonical (word : String) : String := Text.upper (Text.strip word)

/-- The logical type of a native word, if it has one. -/
def logical? (word : String) : Option LogicalType := logicalTypes.lookup (canonical word)

/-- The length of a column of this native type when none is given. -/
def defaultLength? (word : String) : Option Nat := defaultLengths.lookup (Text.upper word)

end NativeType

namespace LogicalType

/-- The logical type of what the catalog calls the type; none for what is not given. -/
def ofNative : Value → Except Fault (Option LogicalType)
  | .text s => .ok (NativeType.logical? s)
  | .bytes _ => .ok none
  | v => if v.isTruthy then .error .noSuchOperation else .ok none

/-- The native word for what names a logical type. -/
def nativeOf (v : Value) : Except Error String :=
  match ofValue? v with
  | some t => .ok t.native
  | none => .error (.of (.unknownLogicalType v))

/-- The default length of a native type given as a value. -/
def defaultLengthOf : Value → Except Fault (Option Nat)
  | .text s => .ok (NativeType.defaultLength? s)
  | .bytes _ => .ok none
  | _ => .error .noSuchOperation

theorem logical?_native (t : LogicalType) : NativeType.logical? t.native = some t := by
  cases t <;> decide +kernel

theorem ofNative_native (t : LogicalType) : ofNative (.text t.native) = .ok (some t) := by
  simp [ofNative, logical?_native]

end LogicalType

end TableGateway
