import TableGateway.Arguments
import TableGateway.Error
import TableGateway.Journal.Note
import TableGateway.Value.Order
import TableGateway.Value.Whole

/-!
# Connection configurations

A `Config` says under which identity a connection is known and how it is made. Ports are numbers between 1 and 65535
by type; what is given for a mode or a port and is none is refused with an error that quotes it. The connection string
lists the settings in a fixed order; the safe settings leave the password out.

- **`ofSettings_migrate_first`**: a wrong mode is reported before a wrong port.
-/

namespace TableGateway

/-- What may happen to tables that differ from their schema. -/
inductive MigrateMode where
  | safe
  | alter
  | drop
  deriving DecidableEq, Repr

namespace MigrateMode

def name : MigrateMode → String
  | .safe => "safe"
  | .alter => "alter"
  | .drop => "drop"

/-- The mode that a value names. -/
def ofValue? : Value → Option MigrateMode
  | .text "safe" => some .safe
  | .text "alter" => some .alter
  | .text "drop" => some .drop
  | _ => none

end MigrateMode

/-- A port number. -/
structure Port where
  number : Nat
  pos : 0 < number := by decide
  lt : number < 65536 := by decide
  deriving DecidableEq

/-- The port of a connection that names none. -/
def Port.usual : Port where
  number := 50000

structure Config where
  identity : Value := .text ""
  host : Value := .text "localhost"
  port : Port := .usual
  database : Value := .text ""
  user : Value := .null
  password : Value := .null
  ssl : Value := .bool false
  pool : Value := .bool false
  migrate : MigrateMode := .safe
  schema : Value := .bool true

namespace Config

/-- The names of the settings. -/
def settingNames : List String :=
  ["identity", "host", "port", "database", "user", "password", "ssl", "pool", "migrate", "schema"]

def signature : Signature := ⟨settingNames, [], []⟩

/-! ## Reading a port -/

/-- A port of this number, if it is in range. -/
def portOf? (n : Int) : Option Port :=
  if h : 0 < n ∧ n < 65536 then some ⟨n.toNat, by omega, by omega⟩ else none

/-- What a port is told by: a text of digits is read as a number. -/
def portNumber : Value → Except Fault Value
  | .text s =>
    if Text.allDigits (Text.strip s) then
      match Integer.read s with
      | some n => .ok (.int n)
      | none => .error .badValue
    else .ok (.text s)
  | v => .ok v

/-- The refusal of what is given for a setting. Its message quotes what is given, so what cannot be written is no
refusal but a fault. -/
def refusal (key : String) (v : Value) : Failure :=
  if v.isWritable then .refused (.of (.invalidConfig (.text key) v)) else .broken .badValue

/-- The port, which has to lie in the range. -/
def readPort (v : Value) : Except Failure Port := do
  match ← portNumber v with
  | .int n =>
    match portOf? n with
    | some p => return p
    | none => throw (refusal "port" v)
  | _ => throw (refusal "port" v)

/-! ## Making configurations -/

/-- The mode, which has to be one of the three. -/
def readMigrate (v : Value) : Except Failure MigrateMode :=
  match MigrateMode.ofValue? v with
  | some m => .ok m
  | none => .error (refusal "migrate" v)

/-- The configuration with these settings, the others as usual. -/
def ofSettings (t : Keyed Value) : Except Failure Config := do
  let migrate ← readMigrate (t.getD "migrate" (.text MigrateMode.safe.name))
  let port ← readPort (t.getD "port" (.int 50000))
  return { identity := t.getD "identity" (.text ""), host := t.getD "host" (.text "localhost"), port := port,
           database := t.getD "database" (.text ""), user := t.getD "user" .null, password := t.getD "password" .null,
           ssl := t.getD "ssl" (.bool false), pool := t.getD "pool" (.bool false), migrate := migrate,
           schema := t.getD "schema" (.bool true) }

/-- The configuration made of named settings. -/
def ofParts (given : Keyed Value) : Except Failure Config := do
  ofSettings (← signature.bind [] given)

/-- Is the key the name of a setting? -/
def isSettingName : Value → Bool := Value.isOneOf settingNames

/-- The note on settings that are passed over. -/
def ignoredNote (identity : Value) (ignored : List Value) : Note :=
  ⟨.configuration, .debug, "connection_options_ignored", [("identity", identity), ("keys", .list ignored)]⟩

/-- The configuration that a mapping describes, and the note on what of it is passed over. An identity is needed. -/
def ofMapping (t : Keyed Value) : List Note × Except Failure Config :=
  let identity := t.getD "identity" .null
  if identity.isTruthy then
    match Value.sort (t.keys.filter fun k => !isSettingName k) with
    | .error f => ([], .error (.broken f))
    | .ok ignored =>
      (if ignored.isEmpty then [] else [ignoredNote identity ignored],
        ofSettings ⟨t.entries.filter fun e => isSettingName e.1⟩)
  else ([], .error (.refused (.of .missingIdentity)))

/-- The configuration that a value describes. -/
def ofValue : Value → List Note × Except Failure Config
  | .map es => ofMapping ⟨es⟩
  | _ => ([], .error (.broken .noSuchOperation))

/-! ## Writing configurations -/

/-- A setting that may be missing, as a text. -/
def optionalText (v : Value) : String := (v.orElse (.text "")).shown

/-- The segments of the connection string, each a key and a value. -/
def segments (c : Config) : List (String × String) :=
  [("DRIVER", "\x7bDB2\x7d"), ("DATABASE", c.database.shown), ("HOSTNAME", c.host.shown), ("UID", optionalText c.user),
    ("PWD", optionalText c.password), ("PORT", toString c.port.number), ("PROTOCOL", "TCPIP")] ++
    if c.ssl.isTruthy then [("SECURITY", "SSL")] else []

/-- The connection string. -/
def connectionString (c : Config) : String :=
  ";".intercalate (c.segments.map fun s => s.1 ++ "=" ++ s.2)

/-- The settings that may be logged. -/
def safeSettings (c : Config) : List (String × Value) :=
  [("identity", c.identity), ("host", c.host), ("port", .int c.port.number), ("database", c.database),
    ("user", c.user), ("ssl", c.ssl), ("pool", c.pool), ("migrate", .text c.migrate.name)]

/-- The settings that callers are told as the usual ones. -/
def usualSettings : List (String × Value) :=
  [("host", .text "localhost"), ("port", .int 50000), ("schema", .bool true), ("ssl", .bool false),
    ("migrate", .text MigrateMode.safe.name)]

/-! ## What is accepted -/

theorem portOf?_eq_some {n : Int} {p : Port} : portOf? n = some p ↔ n = p.number := by
  unfold portOf?
  have := p.pos
  have := p.lt
  split
  · next h =>
    constructor
    · rintro ⟨⟩
      simp; omega
    · intro e
      cases p
      simp_all
  · next h =>
    simp only [reduceCtorEq, false_iff]
    intro e
    exact h ⟨by omega, by omega⟩

theorem ofSettings_migrate_first {t : Keyed Value} {f : Failure}
    (h : readMigrate (t.getD "migrate" (.text MigrateMode.safe.name)) = .error f) : ofSettings t = .error f := by
  unfold ofSettings
  rw [h]
  rfl

end Config

end TableGateway
