import TableGateway.Value
import TableGateway.Number.Integer
import TableGateway.Text.Literal
import TableGateway.Text.Upper

/-!
# Values as texts

A value has two texts: its literal, in which texts are quoted, and the form in which it is shown, which is the text
itself for a text, the numeral for a decimal number, and the literal for everything else.
-/

namespace TableGateway.Value

/-- How values are spelled. -/
structure Spelling where
  null : String
  yes : String
  no : String
  emptySet : String
  decimalName : String
  typeName : String

def spelling : Spelling := ⟨"None", "True", "False", "set()", "Decimal", "LogicalType"⟩

/-- The names of records. -/
def recordName : RecordKind → String
  | .attribute => "PortableAttribute"
  | .schema => "PortableSchema"
  | .options => "OperationOptions"

/-- Is this part of a record the name of a logical type? -/
def isTypePart (kind : RecordKind) (name : String) (v : Value) : Bool :=
  kind == .attribute && name == "type" && v.isText

/-- The literal of a logical type: its name in capitals and as it is. -/
def typeLiteral : Value → String
  | .text s => "<" ++ spelling.typeName ++ "." ++ Text.upper s ++ ": " ++ Text.literal s ++ ">"
  | _ => ""

/-- The members between two brackets. -/
def bracketed (left right : String) (parts : List String) : String :=
  left ++ ", ".intercalate parts ++ right

mutual
/-- The literal of a value. -/
def literal : Value → String
  | .null => spelling.null
  | .bool b => if b then spelling.yes else spelling.no
  | .int n => toString n
  | .float x => x.text
  | .decimal d => spelling.decimalName ++ "(" ++ Text.literal d.text ++ ")"
  | .text s => Text.literal s
  | .bytes bs => Text.bytesLiteral bs
  | .list xs => bracketed "[" "]" (literals xs)
  | .tuple xs => bracketed "(" (if xs.length = 1 then ",)" else ")") (literals xs)
  | .set xs => if xs.isEmpty then spelling.emptySet else bracketed "\x7b" "\x7d" (literals xs)
  | .map es => bracketed "\x7b" "\x7d" (entryLiterals es)
  | .record kind ps => recordName kind ++ bracketed "(" ")" (partLiterals kind ps)

def literals : List Value → List String
  | [] => []
  | x :: xs => literal x :: literals xs

def entryLiterals : List (Value × Value) → List String
  | [] => []
  | (k, v) :: es => (literal k ++ ": " ++ literal v) :: entryLiterals es

def partLiterals (kind : RecordKind) : List (String × Value) → List String
  | [] => []
  | (n, v) :: ps =>
    (n ++ "=" ++ (if isTypePart kind n v then typeLiteral v else literal v)) :: partLiterals kind ps
end

mutual
/-- Can the literal be written? Whole numbers of too many digits have none. -/
def isWritable : Value → Bool
  | .int n => Integer.isWritable n
  | .list xs | .tuple xs | .set xs => areWritable xs
  | .map es => areEntriesWritable es
  | .record _ ps => arePartsWritable ps
  | _ => true

def areWritable : List Value → Bool
  | [] => true
  | x :: xs => isWritable x && areWritable xs

def areEntriesWritable : List (Value × Value) → Bool
  | [] => true
  | (k, v) :: es => isWritable k && isWritable v && areEntriesWritable es

def arePartsWritable : List (String × Value) → Bool
  | [] => true
  | (_, v) :: ps => isWritable v && arePartsWritable ps
end

/-- The literal, or a fault where it cannot be written. -/
def writeLiteral (v : Value) : Except Fault String :=
  if v.isWritable then .ok v.literal else .error .badValue

/-- The text in which a value is shown. -/
def shown : Value → String
  | .text s => s
  | .decimal d => d.text
  | v => v.literal

/-- The text in which a value is shown, or a fault where it cannot be written. -/
def writeShown (v : Value) : Except Fault String :=
  if v.isWritable then .ok v.shown else .error .badValue

@[simp] theorem shown_text (s : String) : (Value.text s).shown = s := rfl

theorem writeShown_text (s : String) : writeShown (.text s) = .ok s := by
  simp [writeShown, isWritable, shown]

end TableGateway.Value
