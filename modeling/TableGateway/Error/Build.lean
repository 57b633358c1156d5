import TableGateway.Arguments
import TableGateway.Error

/-!
# Errors built from arguments

Callers raise errors of their own by naming a kind and giving its arguments. The kinds with a wording take what the
wording is about and, mostly, a message to use instead; the others take their message first, and a category, a
context and a cause by name.
-/

namespace TableGateway.Error

/-- The arguments by name that every kind without a wording takes. -/
def reportNames : List String := ["category", "context", "cause"]

/-- The parameters of a kind. -/
def signature? : String → Option Signature
  | "AdapterError" | "ConfigError" | "DriverUnavailableError" | "DatabaseError" =>
    some ⟨["message"], reportNames, ["message"]⟩
  | "ValidationError" | "InvalidOptionsError" =>
    some ⟨["message"], "field" :: "value" :: reportNames, ["message"]⟩
  | "DriverError" => some ⟨["message"], "state" :: reportNames, ["message"]⟩
  | "MissingIdentityError" => some ⟨["message"], [], []⟩
  | "DuplicateIdentityError" | "UnknownIdentityError" => some ⟨["identity", "message"], [], ["identity"]⟩
  | "InvalidConfigError" => some ⟨["key", "value", "message"], [], ["key", "value"]⟩
  | "UnknownSchemaError" => some ⟨["schema_name", "identity"], [], ["schema_name"]⟩
  | "UnknownLogicalTypeError" => some ⟨["logical_type"], [], ["logical_type"]⟩
  | _ => none

/-- The parameters of a context. -/
def contextSignature : Signature := ⟨["identity", "schema_name", "table", "sql", Context.notesName], [], []⟩

/-- A category given by name. -/
def readCategory : Value → Except Fault (Option Category)
  | .null => .ok none
  | .text s =>
    match Category.ofName? s with
    | some c => .ok (some c)
    | none => .error .badValue
  | _ => .error .badValue

/-- A context given by a mapping of its fields. -/
def readContext : Value → Except Fault Context
  | .null => .ok {}
  | .map es => do
    let t ← contextSignature.bind [] ⟨es⟩
    return { identity := t.getD "identity" .null, schemaName := t.getD "schema_name" .null,
             table := t.getD "table" .null, sql := t.getD "sql" .null,
             notes := some (t.getD Context.notesName (.map [])) }
  | _ => .error .wrongKind

/-- A cause given by its text. -/
def readCause : Value → Option Cause
  | .null => none
  | v => some (.other v.shown)

/-- The state of an engine's error: the one given, whatever it is, or else the one its message names. -/
def readState (message given : Value) : Except Fault Value :=
  if given.isTruthy then .ok given
  else match message with
    | .text s => .ok (.text ((stateOf s).getD ""))
    | m => if m.isTruthy then .error .wrongKind else .ok (.text "")

/-- The kind of a name, its arguments taken from the table. -/
def readKind (name : String) (t : Keyed Value) : Except Fault ErrorKind :=
  let arg (n : String) : Value := t.getD n .null
  match name with
  | "ConfigError" => .ok .config
  | "DriverUnavailableError" => .ok .driverUnavailable
  | "DatabaseError" => .ok .database
  | "ValidationError" => .ok (.validation (arg "field") (arg "value"))
  | "InvalidOptionsError" => .ok (.invalidOptions (arg "field") (arg "value"))
  | "DriverError" => (readState (arg "message") (arg "state")).map .driver
  | "MissingIdentityError" => .ok .missingIdentity
  | "DuplicateIdentityError" => .ok (.duplicateIdentity (arg "identity"))
  | "UnknownIdentityError" => .ok (.unknownIdentity (arg "identity"))
  | "InvalidConfigError" => .ok (.invalidConfig (arg "key") (arg "value"))
  | "UnknownSchemaError" => .ok (.unknownSchema (arg "schema_name") (arg "identity"))
  | "UnknownLogicalTypeError" => .ok (.unknownLogicalType (arg "logical_type"))
  | _ => .ok .adapter

/-- The error of a kind with these arguments. -/
def build (name : String) (inOrder : List Value) (byName : Keyed Value) : Except Fault Error := do
  let category ← readCategory (byName.getD "category" .null)
  let context ← readContext (byName.getD "context" .null)
  let cause := readCause (byName.getD "cause" .null)
  match signature? name with
  | none => throw .noSuchOperation
  | some s =>
    let t ← s.bind inOrder byName
    let kind ← readKind name t
    if kind.wording.isEmpty then
      return { kind := kind, message := t.getD "message" .null, category := category.getD kind.category,
               context := context, cause := cause }
    else return .of kind (t.getD "message" .null)

end TableGateway.Error
