import TableGateway.Run

/-!
# The life of an entry

Registering a configuration adds an entry and its pool; tearing an entry down removes it and closes what it holds. A
teardown of all entries goes on when closing one of them fails on the engine's side, and the first such error is
reported once all is done.
-/

namespace TableGateway.Registry

variable {σ κ π : Type}

/-- A configuration as a caller hands it over. -/
inductive ConfigGiven where
  | built (c : Config)
  | value (v : Value)

/-- The configuration, with a note on what of it is passed over. -/
def configOf : ConfigGiven → Run σ κ π Config
  | .built c => pure c
  | .value v => do
    let (notes, r) := Config.ofValue v
    Run.logAll notes
    Run.lift r

/-- The entry of an identity. -/
def resolved (identity : Value) : Run σ κ π (Entry κ π) := do
  let r ← Run.registry
  Run.lift (r.resolve identity)

/-! ## Registering -/

/-- Is the identity free? Otherwise the error says so. -/
def checkFree (identity : Value) : Run σ κ π Unit := do
  if identity.isTruthy then
    let r ← Run.registry
    match ← Run.lift (liftM (r.find identity)) with
    | some _ => Run.fail (.refused (.of (.duplicateIdentity identity)))
    | none => pure ()
  else Run.fail (.refused (.of .missingIdentity))

/-- The pool of a configuration that asks for one. -/
def poolOf (c : Config) : Run σ κ π (Option π) := do
  if c.pool.isTruthy then
    let p ← Run.call fun d => d.createPool c.connectionString
    return some p
  else return none

/-- The note on a new entry. -/
def registeredNote (c : Config) (names : List Value) : Note :=
  ⟨.registry, .info, "connection_registered", c.safeSettings ++ [("schemas", .list names)]⟩

/-- Registers a configuration with its schemas and answers with the identity. The entry is there before its schemas
are named in the journal, which fails for names that have no order. -/
def register (given : ConfigGiven) (schemas : Description) : Run σ κ π Value := do
  let c ← configOf given
  checkFree c.identity
  let ss ← Run.lift (coerceSchemas schemas)
  let pool ← poolOf c
  Run.changeRegistry fun r => r.update c.identity { config := c, schemas := ss.map .schema, pool := pool }
  let names ← Run.lift (liftM (Value.sort ss.keys))
  Run.log (registeredNote c names)
  return c.identity

/-- Registers a schema, or what is handed over as one, under an identity. -/
def addSchema (identity name : Value) (s : Registered) : Run σ κ π Unit := do
  let e ← resolved identity
  if name.isKey then Run.changeRegistry fun r => r.update identity (e.addSchema name s)
  else Run.fail (.broken .wrongKind)

/-! ## Closing -/

/-- Runs something that may fail on the engine's side: the error it reports. -/
def enginesError? (x : Run σ κ π Unit) : Run σ κ π (Option Error) := do
  match ← Run.attempt x with
  | .ok _ => return none
  | .error (.refused e) => if e.isDriver then return some e else Run.fail (.refused e)
  | .error f => Run.fail f

/-- Closes what may be there. -/
def release {α : Type} (held : Option α) (close : Driver σ κ π → α → σ → Except Failure Unit × σ) :
    Run σ κ π (Option Error) :=
  match held with
  | none => pure none
  | some a => enginesError? (Run.call fun d => close d a)

/-- Closes what an entry holds, its connection first. Both are closed even when the first fails on the engine's side;
the first error is reported. -/
def closeHeld (e : Entry κ π) : Run σ κ π Unit := do
  let first ← release e.conn Driver.close
  let second ← release e.pool Driver.dispose
  match first.or second with
  | none => pure ()
  | some e => Run.fail (.refused e)

/-- Closes what the entry of an identity holds; the entry stays. -/
def closeEntry (identity : Value) : Run σ κ π Unit := do
  let e ← resolved identity
  Run.changeRegistry fun r => r.update identity e.bare
  closeHeld e

/-! ## Tearing down -/

/-- The note on an entry that could not be closed. -/
def closeFailedNote (identity : Value) (e : Error) : Note :=
  ⟨.registry, .warning, "connection_close_failed",
    [("identity", identity), ("state", e.state), ("message", e.message)]⟩

def tornDownNote (identity : Value) : Note := ⟨.registry, .info, "connection_torn_down", [("identity", identity)]⟩

def unknownNote (identity : Value) : Note := ⟨.registry, .debug, "teardown_unknown_identity", [("identity", identity)]⟩

/-- Closes what a removed entry holds: the engine's error, if there was one. -/
def closeRemoved (identity : Value) (e : Entry κ π) : Run σ κ π (Option Error) := do
  match ← enginesError? (closeHeld e) with
  | none =>
    Run.log (tornDownNote identity)
    return none
  | some e =>
    Run.log (closeFailedNote identity e)
    return some (e.onConnection identity)

/-- Removes all entries in turn: the first error of the engine. What is removed is told by its place, since not every
identity can be looked up. -/
def tearDownEach : List (Value × Entry κ π) → Run σ κ π (Option Error)
  | [] => pure none
  | (identity, e) :: es => do
    Run.changeRegistry fun r => { r with entries := ⟨es⟩ }
    let first ← closeRemoved identity e
    let later ← tearDownEach es
    return first.or later

/-- Removes one entry. -/
def tearDownOne (identity : Value) (e : Entry κ π) : Run σ κ π (Option Error) := do
  Run.changeRegistry fun r => r.remove identity
  closeRemoved identity e

/-- Fails with the engine's error, if there was one. -/
def report : Option Error → Run σ κ π Unit
  | none => pure ()
  | some e => Run.fail (.refused e)

/-- Tears down one entry, or all of them when no identity is given. The engine's first error is reported once all is
done. -/
def teardown (identity : Value) : Run σ κ π Unit := do
  let r ← Run.registry
  if identity.isNull then report (← tearDownEach r.entries.entries)
  else
    match ← Run.lift (liftM (r.find identity)) with
    | some e => report (← tearDownOne identity e)
    | none => Run.log (unknownNote identity)

end TableGateway.Registry
