import TableGateway.Registry.Lifecycle
import TableGateway.Sql.Statement

/-!
# Dispatching statements

A dispatcher runs statements for an identity. It takes a connection out of the pool of the entry, or the one that the
entry keeps open, tells the listener about the statement, runs it, and sorts what the engine reports: a warning is an
empty answer, all else an error that says where it happened. The caller's faults pass through.

- **`classify_warning`**, **`classify_error`**: how an engine's error is sorted.
-/

namespace TableGateway

/-- Someone who is told every statement before it runs. A listener may fail, depending on what it has heard before;
nobody is harmed by that. -/
structure Listener where
  fails : List String → String → Bool

structure Dispatcher where
  /-- States that begin so are warnings. -/
  warningLead : String := Error.warningClass
  listener : Option Listener := none

namespace Dispatcher

variable {σ κ π α : Type}

/-- The rows of an answer. -/
abbrev Rows := List Value

/-! ## Notes -/

def executedNote (s : Statement) : Note :=
  ⟨.dispatcher, .debug, "query_executed", [("sql", .text s.sql), ("param_count", .int s.params.length)]⟩

def listenerFailedNote : Note := ⟨.dispatcher, .warning, "sql_logger_failed", [("exc_info", .bool true)]⟩

def openedNote : Note := ⟨.dispatcher, .debug, "connection_opened", [("pooled", .bool false)]⟩

def downgradedNote (e : Error) : Note :=
  ⟨.dispatcher, .info, "warning_state_downgraded", [("state", e.state), ("message", e.message)]⟩

def engineErrorNote (e : Error) : Note :=
  ⟨.dispatcher, .debug, "driver_error", [("state", e.state), ("message", e.message)]⟩

/-! ## Connections -/

/-- Opens the connection that an entry keeps. -/
def openKept (identity : Value) (e : Entry κ π) : Run σ κ π κ := do
  let c ← Run.call fun d => d.connect e.connectionString
  let r ← Run.registry
  Run.logAll r.driver.opened
  Run.changeRegistry fun r => r.update identity { e with conn := some c }
  Run.log openedNote
  return c

/-- Runs something with a connection. One out of a pool is given back afterwards in any case; otherwise the entry's
own is used, and opened when it is not. -/
def withConnection (identity : Value) (e : Entry κ π) (body : κ → Run σ κ π α) : Run σ κ π α :=
  match e.pool with
  | some p => do
    let c ← Run.call fun d => d.acquire p
    Run.ensure (body c) (Run.call fun d => d.close c)
  | none =>
    match e.conn with
    | some c => body c
    | none => do
      let c ← openKept identity e
      body c

/-! ## Running -/

/-- Tells the journal and the listener about a statement. -/
def announce (d : Dispatcher) (s : Statement) : Run σ κ π Unit := do
  Run.log (executedNote s)
  match d.listener with
  | none => pure ()
  | some l =>
    let w ← Run.world
    Run.change fun w => { w with heard := w.heard ++ [s.sql] }
    if l.fails w.heard s.sql then Run.log listenerFailedNote

/-- The values that go with a statement, if it has any. -/
def valuesOf (s : Statement) : Option (List Value) := if s.hasParams then some s.params else none

/-- Announces a statement and runs it on a connection. -/
def runOn (d : Dispatcher) (s : Statement) (c : κ) : Run σ κ π Rows := do
  d.announce s
  Run.call fun dr => dr.query c s.sql (valuesOf s)

/-- Sorts what the engine reports: a warning is an empty answer. -/
def classify (d : Dispatcher) (e : Error) : Run σ κ π (Outcome Error Rows) := do
  if ← Run.lift (liftM (e.isWarning d.warningLead)) then
    Run.log (downgradedNote e)
    return .ok []
  else return .error e

/-- Answers for how a statement ended. -/
def answer (d : Dispatcher) (identity schemaName : Value) (s : Statement) :
    Except Failure Rows → Run σ κ π (Outcome Error Rows)
  | .ok rows => pure (.ok rows)
  | .error (.broken f) => Run.fail (.broken f)
  | .error (.refused e) =>
    if e.isDriver then do
      let e := (e.within identity schemaName).executing s.sql
      Run.log (engineErrorNote e)
      d.classify e
    else pure (.error (e.within identity schemaName))

/-- Runs a statement for a registered identity. -/
def executeFor (d : Dispatcher) (identity schemaName : Value) (s : Statement) (e : Entry κ π) :
    Run σ κ π (Outcome Error Rows) := do
  let r ← Run.attempt (withConnection identity e (d.runOn s))
  d.answer identity schemaName s r

/-- Runs a statement for an identity, on behalf of a schema if one is named. -/
def execute (d : Dispatcher) (identity : Value) (s : Statement) (schemaName : Value := .null) :
    Run σ κ π (Outcome Error Rows) :=
  Run.binding [("identity", identity), ("schema", schemaName)] do
    match ← Run.settle (Registry.resolved identity) with
    | .error e => return .error e
    | .ok e => d.executeFor identity schemaName s e

/-- The statement of a text and of the values in a sequence; nothing given is no values. -/
def statementOf (sql : String) (params : Value) : Except Fault Statement :=
  if params.isTruthy then params.members?.map fun vs => ⟨sql, vs⟩ else .ok ⟨sql, []⟩

/-! ## How errors are sorted -/

theorem classify_warning {d : Dispatcher} {e : Error} {w : World σ κ π} (h : e.isWarning d.warningLead = .ok true)
    (written : w.writes ⟨downgradedNote e, w.bound⟩ = .ok ()) :
    (d.classify e).run w = (.ok (.ok []), { w with journal := w.journal ++ [⟨downgradedNote e, w.bound⟩] }) := by
  simp only [classify, h, Run.run_bind, Run.run_lift]
  exact Run.run_bind_ok (Run.run_log written)

theorem classify_error {d : Dispatcher} {e : Error} (h : e.isWarning d.warningLead = .ok false) (w : World σ κ π) :
    (d.classify e).run w = (.ok (.error e), w) := by
  simp only [classify, h, Run.run_bind, Run.run_lift]
  rfl

end Dispatcher

end TableGateway
