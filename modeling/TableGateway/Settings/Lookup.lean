import TableGateway.Arguments
import TableGateway.Text.Fold

/-!
# Looking settings up

Settings are found by name: the caller gives them under the name itself, variables and files under the name with a
lead before it. How names are compared, and which values count, can be said along with the settings. The lead is the
gateway's own; the rest is the settings library's part, as its documentation describes it.
-/

namespace TableGateway.Settings

/-- How settings are found. -/
structure Lookup where
  /-- What the names of variables that hold settings begin with. -/
  lead : String := "DB2BRIDGE_"
  /-- Names differ when their letters differ in case. -/
  exactCase : Bool := false
  /-- Empty values are passed over. -/
  skipsEmpty : Bool := false
  /-- The text that stands for nothing. -/
  nullText : Option String := none

namespace Lookup

/-- A name as it is compared. -/
def key (l : Lookup) (name : String) : String := if l.exactCase then name else Text.fold name

/-- The first entry of a name. -/
def find? {α : Type} (l : Lookup) (entries : List (String × α)) (name : String) : Option α :=
  (entries.find? fun e => l.key e.1 == l.key name).map (·.2)

/-- The last entry of the variable for a name. -/
def findVariable? {α : Type} (l : Lookup) (entries : List (String × α)) (name : String) : Option α :=
  l.find? entries.reverse (l.lead ++ name)

/-- Does the value of a variable count? A variable without a value does. -/
def counts (l : Lookup) (v : Option String) : Bool := !(l.skipsEmpty && v == some "")

/-- The value that a text stands for. -/
def value (l : Lookup) (s : String) : Value := if l.nullText = some s then .null else .text s

/-! ## What the caller says -/

/-- The lead that a value names. -/
def readLead : Value → Except Fault String
  | .null => .ok ({} : Lookup).lead
  | .text s => .ok s
  | _ => .error .wrongKind

/-- A text that a value is. -/
def readText? : Value → Option String
  | .text s => some s
  | _ => none

/-- How settings are found according to the caller's arguments. -/
def ofArguments (given : Keyed Value) : Except Fault Lookup := do
  let lead ← readLead (given.getD "_env_prefix" .null)
  return { lead := lead, exactCase := (given.getD "_case_sensitive" .null).isTruthy,
           skipsEmpty := (given.getD "_env_ignore_empty" .null).isTruthy,
           nullText := readText? (given.getD "_env_parse_none_str" .null) }

end Lookup

end TableGateway.Settings
