import TableGateway.Error
import TableGateway.Journal.Note

/-!
# Drivers

A driver makes the connections and pools through which statements reach the engine. Whatever lies behind it is a state
of type `σ`; connections and pools are handles of types `κ` and `π`, and every call may change the state, also when it
fails.
-/

namespace TableGateway

/-- What a gateway asks of whoever talks to the engine. -/
structure Driver (σ κ π : Type) where
  /-- Opens a connection for a connection string. -/
  connect : String → σ → Except Failure κ × σ
  /-- Makes a pool of connections for a connection string. -/
  createPool : String → σ → Except Failure π × σ
  /-- Takes a connection out of a pool. -/
  acquire : π → σ → Except Failure κ × σ
  /-- Runs a statement, with values when it has some, and answers with the rows. -/
  query : κ → String → Option (List Value) → σ → Except Failure (List Value) × σ
  /-- Closes a connection, or gives it back to its pool. -/
  close : κ → σ → Except Failure Unit × σ
  dispose : π → σ → Except Failure Unit × σ
  /-- What the driver logs when it has opened a connection. -/
  opened : List Note := []

end TableGateway
