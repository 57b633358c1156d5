import TableGateway.Dispatch
import TableGateway.Journal.Line
import TableGateway.Query.Request
import TableGateway.Schema.Catalog
import TableGateway.Schema.Create
import TableGateway.Settings

/-!
# The gateway

A gateway offers operations on tables under the identities of a registry. Each operation builds its statement from the
registered schema, runs it, and answers with one outcome: a value, or an error that names the connection and the
schema.

- **`answered_not_refused`**: an operation that builds a statement never leaves an error unanswered while building.
- **`takeRegistry_given`**, **`takeRegistry_empty`**: a gateway takes the registry it is given, unless that is empty.
-/

namespace TableGateway

structure Gateway where
  dialect : Dialect := ⟨false⟩
  /-- The type of key columns. -/
  keyType : String := "INTEGER"
  dispatcher : Dispatcher := {}

namespace Gateway

variable {σ κ π α β : Type}

/-- The identity of the gateway itself. -/
def identity : String := "sails-db2"

/-- The gateway can change tables to fit their schemas. -/
def syncable : Bool := true

/-- The arguments of making a gateway beside its settings. -/
def ownArguments : List String := ["driver", "sql_logger", "configure_logs"]

/-- Where a gateway's settings come from. Settings may be handed over as a whole, but no plain value is settings. -/
def placesOf (given : List (String × Value)) (environment : List (String × String)) :
    Except Fault Settings.Places := do
  if Settings.Places.overlaps ownArguments given then throw .wrongKind
  if given.any fun e => e.1 == "settings" && e.2.isTruthy then throw .noSuchOperation
  Settings.Places.ofArguments (given.filter fun e => e.1 != "settings") environment none

/-- The gateway that settings describe. -/
def ofSettings (s : Settings) (listener : Option Listener := none) : Gateway where
  dialect := ⟨s.quoteTableNames⟩
  keyType := s.primaryKeyType
  dispatcher := { warningLead := s.warningLead, listener := listener }

/-- The log setup that settings ask for. -/
def configureLogs (s : Settings) (setup : LogSetup) : LogSetup × Except Fault Unit :=
  setup.configure ⟨[(.text "level", .text s.logLevel),
    (.text "json_format", match s.recordLogs with
      | some b => .bool b
      | none => .null)]⟩

/-- The registry that a gateway is made on. -/
inductive Taken (σ κ π : Type) where
  /-- The one that was given. -/
  | given (r : Registry σ κ π)
  /-- A new one, which nobody else has. -/
  | made (r : Registry σ κ π)

/-- The registry that was taken. -/
def Taken.registry : Taken σ κ π → Registry σ κ π
  | .given r | .made r => r

/-- Takes the given registry if it has entries, or else makes a new one. -/
def takeRegistry (given : Option (Registry σ κ π)) (driver : Option (Driver σ κ π)) (usual : Driver σ κ π) :
    Taken σ κ π :=
  match given with
  | some r => if r.entries.isEmpty then .made { driver := driver.getD usual } else .given r
  | none => .made { driver := driver.getD usual }

/-- The registry that a gateway works with. -/
def registryFor (given : Option (Registry σ κ π)) (driver : Option (Driver σ κ π)) (usual : Driver σ κ π) :
    Registry σ κ π := (takeRegistry given driver usual).registry

/-! ## Building and answering -/

/-- The outcome of what may be refused; an error is one of a call on a schema of a connection. -/
def answered (identity schemaName : Value) (x : Run σ κ π α) : Run σ κ π (Outcome Error α) := do
  match ← Run.settle x with
  | .ok a => return .ok a
  | .error e => return .error (e.within identity schemaName)

/-- The outcome with its value changed by what may run into a fault. -/
def mapped (f : α → Except Fault β) (x : Run σ κ π (Outcome Error α)) : Run σ κ π (Outcome Error β) := do
  let r ← x
  Run.lift (liftM (r.map f))

/-- What is registered under the name of a schema. -/
def registered (identity schemaName : Value) : Run σ κ π Registered := do
  let e ← Registry.resolved identity
  Run.lift (e.schema schemaName)

/-- Builds the statement of a request from the registered schema and runs it. -/
def request (g : Gateway) (identity schemaName : Value) (r : Request) : Run σ κ π (Outcome Error Dispatcher.Rows) := do
  let built := do
    let s ← registered identity schemaName
    Run.lift (r.build g.dialect s)
  match ← answered identity schemaName built with
  | .ok st => g.dispatcher.execute identity st schemaName
  | .error e => return .error e

/-- The name of the table of a schema; one that is not registered names its table itself. -/
def tableName (identity schemaName : Value) : Run σ κ π Value := do
  let e ← Registry.resolved identity
  match ← Run.lift (liftM (e.schemas.find schemaName)) with
  | some s => return (← Run.lift (liftM s.table?)).getD schemaName
  | none => return schemaName

/-- The first row, if there is one. -/
def firstRow (rows : Dispatcher.Rows) : Except Fault Value := .ok (rows.head?.getD .null)

/-- The number in the first column of the first row; without rows it is zero. -/
def firstNumber : Dispatcher.Rows → Except Fault Value
  | [] => .ok (.int 0)
  | row :: _ => do
    match (← row.entries?).values with
    | [] => throw .exhausted
    | v :: _ => return .int (← v.toWhole)

/-! ## Connections -/

/-- Registers a connection with its schemas. -/
def registerConnection (config : Registry.ConfigGiven) (schemas : Description := .value .null) :
    Run σ κ π (Outcome Error Value) :=
  Run.settle (Registry.register config schemas)

/-- Closes and forgets a connection, or all of them. -/
def teardown (identity : Value := .null) : Run σ κ π (Outcome Error Unit) :=
  Run.settle (Registry.teardown identity)

/-! ## Tables -/

/-- The schema that a description means under a name. -/
def schemaMeant (schemaName : Value) : Description → Except Failure Schema
  | .schema s => .ok s
  | d => Schema.ofDescription schemaName d

/-- Creates a table and registers its schema once the table is there. -/
def define (g : Gateway) (identity schemaName : Value) (d : Description) :
    Run σ κ π (Outcome Error Dispatcher.Rows) := do
  let built := do
    let _ ← Registry.resolved identity
    let s ← Run.lift (schemaMeant schemaName d)
    let st ← Run.lift (Schema.createTable g.dialect g.keyType s.table s)
    return (s, st)
  match ← answered identity schemaName built with
  | .error e => return .error e
  | .ok (s, st) =>
    match ← g.dispatcher.execute identity st schemaName with
    | .ok rows =>
      Registry.addSchema identity schemaName (.schema s)
      return .ok rows
    | .error e => return .error e

/-- The schema that the rows of the catalog describe. -/
def readCatalog (table : Value) (rows : Dispatcher.Rows) : Run σ κ π (Option Schema) := do
  let (notes, r) := Catalog.read table rows
  Run.logAll notes
  Run.lift (liftM r)

/-- The schema of a table as the catalog tells it, or nothing when there is no such table. -/
def describe (g : Gateway) (identity schemaName : Value) : Run σ κ π (Outcome Error (Option Schema)) := do
  match ← answered identity schemaName (tableName identity schemaName) with
  | .error e => return .error e
  | .ok table =>
    let st ← Run.lift (liftM (Catalog.describe g.dialect table))
    match ← g.dispatcher.execute identity st schemaName with
    | .ok rows => return .ok (← readCatalog table rows)
    | .error e => return .error e

/-- The note on a relation that is not there. -/
def absentNote (relation : Value) : Note := ⟨.gateway, .debug, "relation_absent", [("relation", relation)]⟩

/-- Drops tables in turn and then the last one. One that is not there is passed over, unless it is the last. -/
def dropEach (g : Gateway) (identity schemaName last : Value) :
    List Value → Run σ κ π (Outcome Error Dispatcher.Rows)
  | [] => do
    let st ← Run.lift (liftM (Query.drop g.dialect last))
    g.dispatcher.execute identity st schemaName
  | relation :: relations => do
    let st ← Run.lift (liftM (Query.drop g.dialect relation))
    match ← g.dispatcher.execute identity st schemaName with
    | .ok _ => dropEach g identity schemaName last relations
    | .error e =>
      if e.isDriver && e.isNotFound then do
        Run.log (absentNote relation)
        dropEach g identity schemaName last relations
      else return .error e

/-- Drops a table after the relations that depend on it. -/
def drop (g : Gateway) (identity schemaName : Value) (relations : Value := .tuple []) :
    Run σ κ π (Outcome Error Dispatcher.Rows) := do
  match ← answered identity schemaName (tableName identity schemaName) with
  | .error e => return .error e
  | .ok table =>
    let rs ← Run.lift (liftM relations.members?)
    dropEach g identity schemaName table rs

/-! ## Rows -/

/-- Runs a statement of the caller as it stands. -/
def query (g : Gateway) (identity schemaName : Value) (sql : String) (params : Value := .null) :
    Run σ κ π (Outcome Error Dispatcher.Rows) := do
  let st ← Run.lift (liftM (Dispatcher.statementOf sql params))
  g.dispatcher.execute identity st schemaName

/-- The rows that match. -/
def find (g : Gateway) (identity schemaName : Value) (options : OptionsGiven) :
    Run σ κ π (Outcome Error Dispatcher.Rows) :=
  g.request identity schemaName (.find options)

/-- The first row that matches. -/
def findOne (g : Gateway) (identity schemaName : Value) (options : OptionsGiven) : Run σ κ π (Outcome Error Value) :=
  mapped firstRow (g.request identity schemaName (.findOne options))

/-- The number of rows that match. -/
def count (g : Gateway) (identity schemaName : Value) (options : OptionsGiven) : Run σ κ π (Outcome Error Value) :=
  mapped firstNumber (g.request identity schemaName (.count options))

/-- Adds a row and answers with it as it is stored. -/
def create (g : Gateway) (identity schemaName values : Value) : Run σ κ π (Outcome Error Value) :=
  mapped firstRow (g.request identity schemaName (.create values))

/-- Changes the rows that match and answers with them as they are stored. -/
def update (g : Gateway) (identity schemaName : Value) (options : OptionsGiven) (values : Value) :
    Run σ κ π (Outcome Error Dispatcher.Rows) :=
  g.request identity schemaName (.update options values)

/-- Removes the rows that match. -/
def destroy (g : Gateway) (identity schemaName : Value) (options : OptionsGiven) :
    Run σ κ π (Outcome Error Dispatcher.Rows) :=
  g.request identity schemaName (.destroy options)

/-- Removes all rows of a table. -/
def truncate (g : Gateway) (identity schemaName : Value) : Run σ κ π (Outcome Error Dispatcher.Rows) :=
  g.request identity schemaName .truncate

/-! ## What a gateway keeps to -/

theorem answered_not_refused (identity schemaName : Value) (x : Run σ κ π α) (w : World σ κ π) (e : Error) :
    ((answered identity schemaName x).run w).1 ≠ .error (.refused e) := by
  simp only [answered, Run.run_bind]
  cases hx : (Run.settle x).run w with
  | mk r v =>
    cases r with
    | ok a => cases a <;> simp
    | error f =>
      have := Run.settle_not_refused x w e
      rw [hx] at this
      exact this

theorem takeRegistry_given {r : Registry σ κ π} (entries : r.entries.isEmpty = false) (driver : Option (Driver σ κ π))
    (usual : Driver σ κ π) : takeRegistry (some r) driver usual = .given r := by
  simp [takeRegistry, entries]

theorem takeRegistry_empty {r : Registry σ κ π} (empty : r.entries.isEmpty = true) (driver : Option (Driver σ κ π))
    (usual : Driver σ κ π) : takeRegistry (some r) driver usual = .made { driver := driver.getD usual } := by
  simp [takeRegistry, empty]

end Gateway

end TableGateway
