import TableGateway.Error.Context
import TableGateway.Error.State
import TableGateway.Value.Text

/-!
# Errors

An `Error` is a failure that the gateway answers with. Its kind says what was wrong and holds what the caller may want
to know; its message is worded by the kind or by whoever reports it; a category, a context and a cause go with it.

- **`within_eq_withContext`**: a call on a schema adds the connection and the schema to an error's context.
- **`detail_of_context`**: an error can be read when its context can and the value at fault can be written.
-/

namespace TableGateway

/-- What an error is about. -/
inductive Category where
  | config
  | validation
  | database
  | internal
  | unknown
  deriving DecidableEq, Repr

namespace Category

def name : Category → String
  | .config => "CONFIG"
  | .validation => "VALIDATION"
  | .database => "DATABASE"
  | .internal => "INTERNAL"
  | .unknown => "UNKNOWN"

def all : List Category := [.config, .validation, .database, .internal, .unknown]

/-- The category of a name. -/
def ofName? (s : String) : Option Category := all.find? fun c => c.name == s

end Category

/-- What was wrong. -/
inductive ErrorKind where
  /-- Any failure of the gateway. -/
  | adapter
  /-- A configuration that cannot work. -/
  | config
  | missingIdentity
  | duplicateIdentity (identity : Value)
  | unknownIdentity (identity : Value)
  | invalidConfig (key value : Value)
  /-- The client library is not installed. -/
  | driverUnavailable
  /-- A request refused before any statement was built. -/
  | validation (field value : Value)
  | invalidOptions (field value : Value)
  | unknownSchema (name identity : Value)
  /-- Something went wrong while talking to the engine. -/
  | database
  /-- A failure that the engine reported, with its state, mostly a text. -/
  | driver (state : Value)
  | unknownLogicalType (given : Value)

namespace ErrorKind

/-- The name under which the kind is reported. -/
def name : ErrorKind → String
  | .adapter => "AdapterError"
  | .config => "ConfigError"
  | .missingIdentity => "MissingIdentityError"
  | .duplicateIdentity _ => "DuplicateIdentityError"
  | .unknownIdentity _ => "UnknownIdentityError"
  | .invalidConfig .. => "InvalidConfigError"
  | .driverUnavailable => "DriverUnavailableError"
  | .validation .. => "ValidationError"
  | .invalidOptions .. => "InvalidOptionsError"
  | .unknownSchema .. => "UnknownSchemaError"
  | .database => "DatabaseError"
  | .driver _ => "DriverError"
  | .unknownLogicalType _ => "UnknownLogicalTypeError"

/-- The names of the wider kinds that it belongs to, nearest first. -/
def wider : ErrorKind → List String
  | .adapter => []
  | .missingIdentity | .duplicateIdentity _ | .unknownIdentity _ | .invalidConfig .. | .driverUnavailable =>
    ["ConfigError", "AdapterError"]
  | .invalidOptions .. | .unknownSchema .. => ["ValidationError", "AdapterError"]
  | .driver _ => ["DatabaseError", "AdapterError"]
  | .config | .validation .. | .database | .unknownLogicalType _ => ["AdapterError"]

/-- The category of the kind. -/
def category : ErrorKind → Category
  | .adapter | .unknownLogicalType _ => .internal
  | .config | .missingIdentity | .duplicateIdentity _ | .unknownIdentity _ | .invalidConfig .. | .driverUnavailable =>
    .config
  | .validation .. | .invalidOptions .. | .unknownSchema .. => .validation
  | .database | .driver _ => .database

/-- The wording of the kinds that have one. -/
def wording : ErrorKind → String
  | .missingIdentity => "Connection is missing an identity"
  | .duplicateIdentity identity => "Connection identity already registered: " ++ identity.shown
  | .unknownIdentity identity => "Unknown connection identity: " ++ identity.shown
  | .invalidConfig key value => "Invalid configuration for " ++ key.shown ++ ": " ++ value.literal
  | .unknownSchema name identity =>
    "Unknown schema: " ++ name.shown ++
      (if identity.isTruthy then " on connection " ++ identity.literal else "")
  | .unknownLogicalType given => "No native DB2 type for logical type: " ++ given.literal
  | _ => ""

/-- What the error lets its receiver look up. -/
def attributes : ErrorKind → List (String × Value)
  | .duplicateIdentity identity | .unknownIdentity identity => [("identity", identity)]
  | .invalidConfig key value => [("key", key), ("value", value)]
  | .validation field value | .invalidOptions field value => [("value", value), ("field", field)]
  | .unknownSchema name _ => [("value", name), ("field", .text "schema_name"), ("schema_name", name)]
  | .driver state => [("state", state)]
  | .unknownLogicalType given => [("logical_type", given)]
  | _ => []

/-- The request's field at fault and the value found there. -/
def fault : ErrorKind → Value × Value
  | .validation field value | .invalidOptions field value => (field, value)
  | .unknownSchema name _ => (.text "schema_name", name)
  | _ => (.null, .null)

/-- The state of an engine's error, empty for all others. -/
def state : ErrorKind → Value
  | .driver state => state
  | _ => .text ""

/-- Was it the engine that reported it? -/
def isDriver : ErrorKind → Bool
  | .driver _ => true
  | _ => false

end ErrorKind

/-- What an error was raised from. -/
inductive Cause where
  /-- The client library's own error. -/
  | client (message : String)
  /-- No connection came free in the pool. -/
  | exhausted (message : String)
  | other (message : String)
  deriving DecidableEq, Repr

def Cause.text : Cause → String
  | .client message | .exhausted message | .other message => message

structure Error where
  kind : ErrorKind
  message : Value
  category : Category := kind.category
  context : Context := {}
  cause : Option Cause := none

namespace Error

/-- States of this class are warnings. -/
def warningClass : String := "01"

/-- The state of an object that does not exist. -/
def notFoundState : String := "42704"

/-! ## Making errors -/

/-- An error of a kind with a wording, or with another message given for it. -/
def of (kind : ErrorKind) (message : Value := .null) : Error :=
  { kind := kind, message := if message.isTruthy then message else .text kind.wording }

/-- An error reported in the given words. -/
def stated (kind : ErrorKind) (message : String) : Error :=
  { kind := kind, message := .text message }

/-- An option that is not acceptable. -/
def option (message : String) (field : Value := .null) (value : Value := .null) : Error :=
  stated (.invalidOptions field value) message

/-- What the engine reported; without a state, the one that the message names counts. -/
def engine (message : String) (state : String := "") (cause : Option Cause := none) : Error :=
  { stated (.driver (.text (if state.isEmpty then (stateOf message).getD "" else state))) message with cause := cause }

/-! ## Reading errors -/

def name (e : Error) : String := e.kind.name

def state (e : Error) : Value := e.kind.state

def isDriver (e : Error) : Bool := e.kind.isDriver

/-- Does the state begin with `lead`? An error without a state is no warning; a state has to be a text. -/
def isWarning (e : Error) (lead : String := warningClass) : Except Fault Bool :=
  if e.state.isTruthy then
    match e.state with
    | .text s => .ok (lead.toList.isPrefixOf s.toList)
    | .bytes _ => .error .wrongKind
    | _ => .error .noSuchOperation
  else .ok false

def isNotFound (e : Error) : Bool := e.state.same (.text notFoundState)

/-- The text of the error. -/
def text (e : Error) : String := e.message.shown

/-- The literal of the error. -/
def literal (e : Error) : String :=
  match e.kind with
  | .driver state => e.name ++ "(" ++ e.message.literal ++ ", state=" ++ state.literal ++ ")"
  | _ => e.name ++ "(" ++ e.message.literal ++ ", category=" ++ e.category.name ++ ")"

/-- An entry that is there only when something is. -/
def entryIf (present : Bool) (name : String) (v : Value) : List (Value × Value) :=
  if present then [(.text name, v)] else []

/-- Everything that the error tells, or the fault of reading its context or writing the value at fault. -/
def detail (e : Error) : Except Fault (Keyed Value) := do
  let context ← e.context.toKeyed
  let (field, value) := e.kind.fault
  let literal ← value.writeLiteral
  return ⟨[(.text "error_type", .text e.name), (.text "message", e.message),
      (.text "category", .text e.category.name)] ++
    entryIf (!context.isEmpty) "context" (.ofKeyed context) ++
    (match e.cause with
      | some c => [(.text "cause", .text c.text)]
      | none => []) ++
    entryIf field.isTruthy "field" field ++ entryIf (!value.isNull) "value" (.text literal) ++
    entryIf e.state.isTruthy "state" e.state⟩

/-! ## Adding context -/

/-- The name that stands for the error itself when values are added to it. -/
def selfName : String := "self"

/-- The error with values added to its context in turn; none may stand for the error itself. -/
def withContext (e : Error) (entries : List (String × Value)) : Except Fault Error :=
  if entries.any fun x => x.1 == selfName then .error .wrongKind
  else (e.context.addAll entries).map fun c => { e with context := c }

/-- The error as one of a call on a schema of a connection. -/
def within (e : Error) (identity schemaName : Value) : Error :=
  { e with context := e.context.within identity schemaName }

/-- The error as one of a connection. -/
def onConnection (e : Error) (identity : Value) : Error := { e with context := { e.context with identity := identity } }

/-- The error as one of running a statement. -/
def executing (e : Error) (sql : String) : Error := { e with context := e.context.executing sql }

theorem within_eq_withContext (e : Error) (identity schemaName : Value) :
    e.withContext [("identity", identity), ("schema_name", schemaName)] = .ok (e.within identity schemaName) := by
  unfold withContext
  rw [Context.within_eq_addAll]
  rfl

theorem detail_of_context {e : Error} {c : Keyed Value} (h : e.context.toKeyed = .ok c)
    (w : e.kind.fault.2.isWritable = true) : ∃ d, e.detail = .ok d := by
  simp only [detail, h, Value.writeLiteral, w, if_true]
  exact ⟨_, rfl⟩

end Error

/-- A failure is an error, which is an answer, or a fault. -/
inductive Failure where
  | refused (e : Error)
  | broken (f : Fault)

namespace Failure

instance : MonadLift (Except Fault) (Except Failure) where
  monadLift
    | .ok a => .ok a
    | .error f => .error (.broken f)

instance : MonadLift (Except Error) (Except Failure) where
  monadLift
    | .ok a => .ok a
    | .error e => .error (.refused e)

variable {α : Type} {a : α}

theorem ok_of_lift_fault {x : Except Fault α} (h : (liftM x : Except Failure α) = .ok a) : x = .ok a := by
  cases x with
  | error f => cases h
  | ok b => cases h; rfl

theorem lift_fault_of_ok {x : Except Fault α} (h : x = .ok a) : (liftM x : Except Failure α) = .ok a := by
  rw [h]
  rfl

theorem ok_of_lift_error {x : Except Error α} (h : (liftM x : Except Failure α) = .ok a) : x = .ok a := by
  cases x with
  | error e => cases h
  | ok b => cases h; rfl

end Failure

end TableGateway
