import TableGateway.Error
import TableGateway.Keyed

/-!
# Client libraries

A client library makes raw connections; statements run through cursors of a connection. `query` runs one statement and
closes its cursor in any case. What the library reports while the statement runs becomes an error of the engine; what
it reports when a cursor is made or closed is left as it is.

- **`failureOf_client`**: the library's own errors always become errors of the engine.
- **`query_cursor_fails`**: a cursor that is not made is a fault.
-/

namespace TableGateway

/-- A client library with a state of type `τ`, raw connections of type `ρ` and cursors of type `γ`. -/
structure Client (τ ρ γ : Type) where
  connect : String → τ → Except Fault ρ × τ
  cursor : ρ → τ → Except Fault γ × τ
  /-- Runs a statement: the columns of its rows, if it has rows. -/
  execute : γ → String → Option (List Value) → τ → Except Fault (Option (List String)) × τ
  fetch : γ → τ → Except Fault (List (List Value)) × τ
  closeCursor : γ → τ → Except Fault Unit × τ
  rollback : ρ → τ → Except Fault Unit × τ
  close : ρ → τ → Except Fault Unit × τ
  /-- What is added to the report that a pool has nothing to lease. -/
  remark : String := ""

/-- The faults that become errors of the engine. -/
inductive Caught where
  /-- The library's own errors. -/
  | ofClient
  | everything
  deriving DecidableEq

namespace Client

variable {τ ρ γ : Type}

/-! ## Faults and errors -/

/-- What a fault that is caught is the cause of. -/
def cause? (c : Caught) (f : Fault) : Option Cause :=
  match f, c with
  | .client m, _ => some (.client m)
  | .raised m, .everything => some (.other m)
  | _, _ => none

/-- A fault as the engine's error it may be. -/
def failureOf (c : Caught) (f : Fault) : Failure :=
  match cause? c f with
  | some cause => .refused (.engine cause.text "" (some cause))
  | none => .broken f

/-- The result of a call whose faults may be errors of the engine. -/
def guarded {α : Type} (c : Caught) : Except Fault α × τ → Except Failure α × τ
  | (.ok a, t) => (.ok a, t)
  | (.error f, t) => (.error (failureOf c f), t)

/-! ## Values of a statement -/

/-- The kind of a value that cannot be walked through. -/
def kindName : Value → String
  | .bool _ => "bool"
  | .int _ => "int"
  | .float _ => "float"
  | .decimal _ => "decimal.Decimal"
  | .record kind _ => Value.recordName kind
  | _ => "NoneType"

/-- The failure of passing a value that is no sequence. -/
def noSequence (c : Caught) (v : Value) : Failure :=
  match c with
  | .ofClient => .broken .wrongKind
  | .everything =>
    let message := "'" ++ kindName v ++ "' object is not iterable"
    .refused (.engine message "" (some (.other message)))

/-- The values to pass, if any are given. -/
def valuesOf (c : Caught) (params : Value) : Except Failure (Option (List Value)) :=
  if params.isTruthy then
    match params.members? with
    | .ok vs => .ok (some vs)
    | .error _ => .error (noSequence c params)
  else .ok none

/-! ## Running a statement -/

/-- A row under its columns; of two columns of one name the later one counts. -/
def rowOf (columns : List String) (row : List Value) : Value :=
  .ofKeyed (Keyed.ofList ((columns.map Value.text).zip row))

/-- Runs a statement through a cursor. -/
def runThrough (l : Client τ ρ γ) (c : Caught) (cur : γ) (sql : String) (params : Value) (t : τ) :
    Except Failure (List Value) × τ :=
  match valuesOf c params with
  | .error e => (.error e, t)
  | .ok vs =>
    match l.execute cur sql vs t with
    | (.error f, t) => (.error (failureOf c f), t)
    | (.ok none, t) => (.ok [], t)
    | (.ok (some columns), t) =>
      match l.fetch cur t with
      | (.error f, t) => (.error (failureOf c f), t)
      | (.ok rows, t) => (.ok (rows.map (rowOf columns)), t)

/-- Runs a statement on a raw connection, through a cursor of its own. -/
def query (l : Client τ ρ γ) (c : Caught) (conn : ρ) (sql : String) (params : Value) (t : τ) :
    Except Failure (List Value) × τ :=
  match l.cursor conn t with
  | (.error f, t) => (.error (.broken f), t)
  | (.ok cur, t) =>
    let (r, t) := l.runThrough c cur sql params t
    match l.closeCursor cur t with
    | (.error f, t) => (.error (.broken f), t)
    | (.ok _, t) => (r, t)

/-- Closes a raw connection. -/
def closeRaw (l : Client τ ρ γ) (c : Caught) (conn : ρ) (t : τ) : Except Failure Unit × τ :=
  guarded c (l.close conn t)

/-! ## Around the statement -/

theorem query_cursor_fails {l : Client τ ρ γ} {c : Caught} {conn : ρ} {sql : String} {params : Value} {t u : τ}
    {f : Fault} (h : l.cursor conn t = (.error f, u)) : l.query c conn sql params t = (.error (.broken f), u) := by
  simp [query, h]

theorem failureOf_client (c : Caught) (m : String) :
    failureOf c (.client m) = .refused (.engine m "" (some (.client m))) := by
  cases c <;> rfl

end Client

end TableGateway
