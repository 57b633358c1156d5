import TableGateway.Connection.Config
import TableGateway.Driver
import TableGateway.Schema

/-!
# Registries

A registry holds one entry for every identity: the configuration, the schemas registered under it, its pool if it has
one, and the connection that is open. It works with the driver that it was made with.

- **`entries_update`**: changing one entry leaves the others alone.
-/

namespace TableGateway

/-- What is registered under the name of a schema. -/
inductive Registered where
  | schema (s : Schema)
  /-- A plain value in a schema's place. It fails as soon as it is used as one. -/
  | other (v : Value)

namespace Registered

/-- What is registered when a description is handed over as it stands. -/
def ofDescription : Description → Registered
  | .schema s => .schema s
  | d => .other d.toValue

/-- The schema, if it is one. -/
def schema? : Registered → Except Fault Schema
  | .schema s => .ok s
  | .other _ => .error .noSuchOperation

/-- The table; nothing registered in a schema's place names none. -/
def table? : Registered → Except Fault (Option Value)
  | .schema s => .ok (some s.table)
  | .other .null => .ok none
  | .other _ => .error .noSuchOperation

end Registered

/-- What is known under one identity. -/
structure Entry (κ π : Type) where
  config : Config
  schemas : Keyed Registered := {}
  pool : Option π := none
  conn : Option κ := none

structure Registry (σ κ π : Type) where
  driver : Driver σ κ π
  entries : Keyed (Entry κ π) := {}

namespace Entry

variable {κ π : Type}

def identity (e : Entry κ π) : Value := e.config.identity

def connectionString (e : Entry κ π) : String := e.config.connectionString

/-- What is registered under the name of a schema. -/
def schema (e : Entry κ π) (name : Value) : Except Failure Registered := do
  match ← e.schemas.find name with
  | some s => return s
  | none => throw (.refused (.of (.unknownSchema name e.identity)))

/-- The entry with one more schema. -/
def addSchema (e : Entry κ π) (name : Value) (s : Registered) : Entry κ π :=
  { e with schemas := e.schemas.put name s }

/-- The entry without its connection and its pool. -/
def bare (e : Entry κ π) : Entry κ π := { e with pool := none, conn := none }

end Entry

/-! ## Schemas handed over at registration -/

namespace Description

/-- Does the description count as given? -/
def isGiven : Description → Bool
  | .value v => v.isTruthy
  | .schema s => s.size != 0
  | .mapping es => !es.isEmpty
  | .attribute _ => true

/-- The table that a mapping names, or the name under which the mapping is registered. -/
def tableName (t : Keyed Description) (name : Value) : Value :=
  match t.lookup (.text "tableName") with
  | some d => d.toValue
  | none => name

/-- The schema registered under a name: built, described with its table, or described by its columns alone. -/
def registered (name : Value) (d : Description) : Except Failure Schema :=
  let described (t : Keyed Description) : Except Failure Schema :=
    match t.lookup (.text "definition") with
    | some definition => Schema.ofDescription (tableName t name) definition
    | none => Schema.ofDescription name d
  match d with
  | .schema s => .ok s
  | .mapping es => described ⟨es⟩
  | .value (.map es) => described (Keyed.map .value ⟨es⟩)
  | .value (.text _) | .value (.list _) | .value (.tuple _) | .value (.set _) => .error (.broken .noSuchOperation)
  | _ => .error (.broken .wrongKind)

end Description

namespace Registry

/-- The schemas of all entries of a description. -/
def coerceEntries : List (Value × Description) → Except Failure (List (Value × Schema))
  | [] => .ok []
  | (name, d) :: es => do
    let s ← d.registered name
    let ss ← coerceEntries es
    return (name, s) :: ss

/-- The schemas that are handed over; nothing given is no schemas. -/
def coerceSchemas (d : Description) : Except Failure (Keyed Schema) := do
  if d.isGiven then
    let t ← d.entries?
    return ⟨← coerceEntries t.entries⟩
  else return {}

variable {σ κ π : Type}

/-- The registry with one entry changed. -/
def update (r : Registry σ κ π) (identity : Value) (e : Entry κ π) : Registry σ κ π :=
  { r with entries := r.entries.put identity e }

/-- The registry without one entry. -/
def remove (r : Registry σ κ π) (identity : Value) : Registry σ κ π :=
  { r with entries := r.entries.erase identity }

/-- The entry of an identity. -/
def find (r : Registry σ κ π) (identity : Value) : Except Fault (Option (Entry κ π)) := r.entries.find identity

/-- The entry of an identity, which has to be registered. -/
def resolve (r : Registry σ κ π) (identity : Value) : Except Failure (Entry κ π) := do
  match ← r.find identity with
  | some e => return e
  | none => throw (.refused (.of (.unknownIdentity identity)))

/-- The identities, in the order of registration. -/
def identities (r : Registry σ κ π) : List Value := r.entries.keys

theorem entries_update {r : Registry σ κ π} {i j : Value} {e : Entry κ π} (h : j.same i = false) :
    (r.update i e).entries.lookup j = r.entries.lookup j := by
  simp [update, Keyed.lookup_put, h]

end Registry

end TableGateway
