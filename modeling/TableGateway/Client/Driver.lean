import TableGateway.Client
import TableGateway.Client.Pool
import TableGateway.Driver

/-!
# The driver of a client library

A client library serves as a driver: connections are raw ones, or leased from a pool. The gateway's own part of it is
which calls are made and what becomes of their faults. How leases work is the pooling library's part, as its
documentation describes it: a leased connection that is closed is rolled back and goes back to its pool; what goes wrong
while it does is not reported, and a connection that cannot be rolled back is thrown away.
-/

namespace TableGateway

/-- A connection leased from a pool; it holds nothing any more once it was given back. -/
structure Lease (ρ : Type) where
  pool : Nat
  conn : Option ρ

/-- A connection of the driver. -/
inductive Handle (ρ : Type) where
  | raw (conn : ρ) (caught : Caught)
  | leased (n : Nat)

/-- The client library's state, and all pools and leases that were ever made. -/
structure ClientState (τ ρ : Type) where
  client : τ
  pools : List (Pool ρ) := []
  leases : List (Lease ρ) := []

namespace ClientState

variable {τ ρ α : Type}

/-- The library's state changed. -/
def withClient (s : ClientState τ ρ) (t : τ) : ClientState τ ρ := { s with client := t }

def setPool (s : ClientState τ ρ) (n : Nat) (p : Pool ρ) : ClientState τ ρ := { s with pools := s.pools.set n p }

/-- The state after a lease was made. -/
def lease (s : ClientState τ ρ) (pool : Nat) (conn : ρ) : Handle ρ × ClientState τ ρ :=
  (.leased s.leases.length, { s with leases := s.leases ++ [⟨pool, some conn⟩] })

end ClientState

namespace Client

variable {τ ρ γ : Type}

/-- The error of a library that is not installed. -/
def unavailable : Error := .stated .driverUnavailable "ibm-db is required for DB2. Install with: pip install ibm-db"

/-! ## Raw connections -/

/-- Opens a raw connection. -/
def openRaw (l : Client τ ρ γ) (cs : String) (s : ClientState τ ρ) : Except Failure (Handle ρ) × ClientState τ ρ :=
  match l.connect cs s.client with
  | (.ok conn, t) => (.ok (.raw conn .ofClient), s.withClient t)
  | (.error (.client m), t) =>
    (.error (.refused (.engine ("Failed to connect to DB2: " ++ m) "" (some (.client m)))), s.withClient t)
  | (.error f, t) => (.error (.broken f), s.withClient t)

/-! ## Pools -/

def newPool (l : Client τ ρ γ) (setup : PoolSetup) (cs : String) : Pool ρ :=
  { setup := setup, connectionString := cs, remark := l.remark }

/-- The error of a pool that has nothing to lease. -/
def exhausted (p : Pool ρ) : Error :=
  .engine ("Connection pool exhausted: " ++ p.exhaustedText) "HYT00" (some (.exhausted p.exhaustedText))

/-- Closes a connection, whatever that comes to. -/
def discard (l : Client τ ρ γ) (conn : Option ρ) (t : τ) : τ :=
  match conn with
  | some conn => (l.close conn t).2
  | none => t

/-- Leases a connection from a pool. -/
def acquire (l : Client τ ρ γ) (n : Nat) (s : ClientState τ ρ) : Except Failure (Handle ρ) × ClientState τ ρ :=
  match s.pools[n]? with
  | none => (.error (.broken .missingKey), s)
  | some p =>
    match p.take with
    | .exhausted => (.error (.refused (exhausted p)), s)
    | .endless => (.error (.broken .endless), s)
    | .noTime => (.error (.broken .badValue), s)
    | .waiting (some conn) rest =>
      let (h, s) := (s.setPool n rest).lease n conn
      (.ok h, s)
    | .waiting none rest =>
      match l.connect p.connectionString s.client with
      | (.ok conn, t) =>
        let (h, s) := ((s.withClient t).setPool n rest).lease n conn
        (.ok h, s)
      | (.error f, t) => (.error (failureOf .ofClient f), (s.withClient t).setPool n (rest.put none))
    | .new rest =>
      match l.connect p.connectionString s.client with
      | (.ok conn, t) =>
        let (h, s) := ((s.withClient t).setPool n rest).lease n conn
        (.ok h, s)
      | (.error f, t) => (.error (failureOf .ofClient f), s.withClient t)

/-- Rolls a connection back; one that cannot be is closed, and its record is empty then. -/
def reset (l : Client τ ρ γ) (conn : ρ) (t : τ) : Option ρ × τ :=
  match l.rollback conn t with
  | (.ok _, t) => (some conn, t)
  | (.error _, t) => (none, l.discard (some conn) t)

/-- Gives a connection back to its pool, or closes it when no more may wait there. -/
def giveBack (l : Client τ ρ γ) (n : Nat) (conn : ρ) (s : ClientState τ ρ) : ClientState τ ρ :=
  let (record, t) := l.reset conn s.client
  let s := s.withClient t
  match s.pools[n]? with
  | none => s
  | some p =>
    if p.hasRoom then s.setPool n (p.put record)
    else (s.withClient (l.discard record s.client)).setPool n p.forget

/-- Closes all connections that wait in a pool. -/
def disposePool (l : Client τ ρ γ) (n : Nat) (s : ClientState τ ρ) : Except Failure Unit × ClientState τ ρ :=
  match s.pools[n]? with
  | none => (.error (.broken .missingKey), s)
  | some p =>
    let t := p.idle.foldl (fun t record => l.discard record t) s.client
    (.ok (), (s.withClient t).setPool n p.emptied)

/-! ## Handles -/

/-- Runs a statement on a connection. -/
def queryOn (l : Client τ ρ γ) (h : Handle ρ) (sql : String) (params : Value) (s : ClientState τ ρ) :
    Except Failure (List Value) × ClientState τ ρ :=
  let on (caught : Caught) (conn : ρ) : Except Failure (List Value) × ClientState τ ρ :=
    let (r, t) := l.query caught conn sql params s.client
    (r, s.withClient t)
  match h with
  | .raw conn caught => on caught conn
  | .leased n =>
    match (s.leases[n]?).bind Lease.conn with
    | some conn => on .ofClient conn
    | none => (.error (.broken .assertion), s)

/-- Closes a connection. -/
def closeHandle (l : Client τ ρ γ) (h : Handle ρ) (s : ClientState τ ρ) : Except Failure Unit × ClientState τ ρ :=
  match h with
  | .raw conn caught =>
    let (r, t) := l.closeRaw caught conn s.client
    (r, s.withClient t)
  | .leased n =>
    match s.leases[n]? with
    | some ⟨pool, some conn⟩ =>
      (.ok (), l.giveBack pool conn { s with leases := s.leases.set n ⟨pool, none⟩ })
    | _ => (.ok (), s)

/-! ## The driver -/

/-- The driver of a library, which may be missing. -/
def driver (l : Client τ ρ γ) (available : Bool) (setup : PoolSetup) :
    Driver (ClientState τ ρ) (Handle ρ) Nat where
  connect cs s := if available then l.openRaw cs s else (.error (.refused unavailable), s)
  createPool cs s :=
    if available then (.ok s.pools.length, { s with pools := s.pools ++ [l.newPool setup cs] })
    else (.error (.refused unavailable), s)
  acquire := l.acquire
  query h sql params := l.queryOn h sql (match params with
    | some vs => .list vs
    | none => .null)
  close := l.closeHandle
  dispose := l.disposePool
  opened := [⟨.client, .debug, "connection_opened", []⟩]

end Client

end TableGateway
