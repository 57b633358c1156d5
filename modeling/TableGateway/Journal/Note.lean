import TableGateway.Value

/-!
# Notes

A note is one event to be logged: where it comes from, its level, its name, and what is said about it.
-/

namespace TableGateway

/-- How much an event matters. -/
inductive Level where
  | debug
  | info
  | warning
  | error
  | critical
  deriving DecidableEq, Repr

namespace Level

def name : Level → String
  | .debug => "debug"
  | .info => "info"
  | .warning => "warning"
  | .error => "error"
  | .critical => "critical"

/-- The rank of a level. -/
def rank : Level → Nat
  | .debug => 10
  | .info => 20
  | .warning => 30
  | .error => 40
  | .critical => 50

/-- The level of a name; some levels have a second one. -/
def ofName? : String → Option Level
  | "debug" => some .debug
  | "info" | "msg" => some .info
  | "warning" | "warn" => some .warning
  | "error" => some .error
  | "critical" | "fatal" => some .critical
  | _ => none

end Level

/-- Where an event comes from. -/
inductive Source where
  | configuration
  | registry
  | dispatcher
  | gateway
  | catalog
  | client
  /-- Code of the caller, under a name of its own. -/
  | caller (name : String)

/-- The name under which the events of a source are logged. -/
def Source.name : Source → String
  | .configuration => "db2bridge.adapters.types"
  | .registry => "db2bridge.adapters.registry"
  | .dispatcher => "db2bridge.adapters.dispatcher"
  | .gateway => "db2bridge.adapter"
  | .catalog => "db2bridge.sql.schema"
  | .client => "db2bridge.adapters.db2"
  | .caller name => name

/-- One event. -/
structure Note where
  source : Source
  level : Level
  event : String
  fields : List (String × Value) := []

end TableGateway
