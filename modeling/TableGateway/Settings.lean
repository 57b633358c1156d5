import TableGateway.Number.Nearest
import TableGateway.Settings.Assignments
import TableGateway.Settings.Lookup
import TableGateway.Text.Upper
import TableGateway.Value.Text

/-!
# Settings

The settings of a gateway come from three places: what the caller gives, the variables of the environment, and an
assignment file. Which settings there are, what each may be and what it is as usual is the gateway's own. How places are
searched and values read is the settings library's part, as its documentation describes it: the first place that knows a
setting decides it; what a place says is read leniently, and all that cannot be read is reported together.
-/

namespace TableGateway

structure Settings where
  quoteTableNames : Bool := false
  primaryKeyType : String := "INTEGER"
  /-- States that begin so are warnings. -/
  warningLead : String := "01"
  logLevel : String := "INFO"
  /-- Are events written as records? Otherwise that depends on where they go. -/
  recordLogs : Option Bool := none
  deriving DecidableEq

namespace Settings

/-! ## Reading values -/

/-- What is wrong with the value of a setting. -/
inductive Complaint where
  | unreadableFlag
  | noFlag
  | noText
  | unreadableText
  | tooShort
  | tooLong
  | unacceptable
  deriving DecidableEq

/-- A setting whose value cannot be read. -/
structure Issue where
  setting : String
  complaint : Complaint
  deriving DecidableEq

/-- A flag by its word, in either case. -/
def flagOfWord (s : String) : Except Complaint Bool :=
  let w := String.ofList (s.toList.map Char.toLower)
  if w ∈ ["1", "t", "y", "on", "yes", "true"] then .ok true
  else if w ∈ ["0", "f", "n", "no", "off", "false"] then .ok false
  else .error .unreadableFlag

/-- A flag by its number: a whole number of 64 bits is a number, even where it is no flag. -/
def flagOfNumber (x : Exact) : Except Complaint Bool :=
  match x with
  | .zero => .ok false
  | .finite negative core twos fives =>
    if twos < 0 ∨ fives < 0 ∨ !x.sizeLt (.ofInt (Int.pow 2 63)) then .error .noFlag
    else if negative = false ∧ core = 1 ∧ twos = 0 ∧ fives = 0 then .ok true
    else .error .unreadableFlag
  | _ => .error .noFlag

def readFlag : Value → Except Complaint Bool
  | .bool b => .ok b
  | .text s => flagOfWord s
  | .bytes bs =>
    match String.fromUTF8? ⟨bs.toArray⟩ with
    | some s => flagOfWord s
    | none => .error .unreadableFlag
  | .int n => if n = -Int.pow 2 63 then .error .unreadableFlag else flagOfNumber (.ofInt n)
  | .float x => flagOfNumber (.ofBinary64 x)
  | .decimal d =>
    match d.nearest with
    | some x => flagOfNumber (.ofBinary64 x)
    | none => .error .noFlag
  | _ => .error .noFlag

def readOptionalFlag : Value → Except Complaint (Option Bool)
  | .null => .ok none
  | v => (readFlag v).map some

def readText : Value → Except Complaint String
  | .text s => .ok s
  | .bytes bs =>
    match String.fromUTF8? ⟨bs.toArray⟩ with
    | some s => .ok s
    | none => .error .unreadableText
  | _ => .error .noText

/-- The type of primary keys, in upper case and without blanks at its ends. -/
def readKeyType (v : Value) : Except Complaint String := do
  let s := Text.upper (Text.strip (← readText v))
  if s.isEmpty then throw .unacceptable else return s

/-- The first characters of a state, one at least and all five at most. -/
def readLead (v : Value) : Except Complaint String := do
  let s ← readText v
  if s.length < 1 then throw .tooShort
  else if 5 < s.length then throw .tooLong
  else return s

/-! ## Where settings come from -/

/-- The places in which settings are found, and how. -/
structure Places where
  given : List (String × Value) := []
  environment : List (String × String) := []
  file : Option String := none
  lookup : Lookup := {}

namespace Places

/-- Are there arguments under names that are spoken for? So is the one that names the file, and the taker's own. -/
def overlaps (own : List String) (given : List (String × Value)) : Bool :=
  given.any fun e => e.1 == "_env_file" || own.contains e.1

/-- The places for a caller's arguments, which say what is given and how settings are found. -/
def ofArguments (given : List (String × Value)) (environment : List (String × String)) (file : Option String) :
    Except Fault Places := do
  if overlaps [] given then throw .wrongKind
  let lookup ← Lookup.ofArguments ⟨given.map fun e => (.text e.1, e.2)⟩
  return ⟨given, environment, file, lookup⟩

/-- What the caller gives for a setting. -/
def ofCaller (p : Places) (name : String) : Option Value := p.lookup.find? p.given name

/-- The value of a variable of the environment. -/
def variableNamed (p : Places) (name : String) : Option String := p.environment.lookup name

/-- What variables say about a setting. A variable without a value says nothing. -/
def ofVariables (p : Places) (entries : List (String × Option String)) (name : String) : Option Value :=
  (p.lookup.findVariable? (entries.filter fun e => p.lookup.counts e.2) name).join.map p.lookup.value

/-- What the environment says about a setting. -/
def ofEnvironment (p : Places) (name : String) : Option Value :=
  p.ofVariables (p.environment.map fun e => (e.1, some e.2)) name

/-- What the file says about a setting. -/
def ofFile (p : Places) (name : String) : Option Value :=
  p.file.bind fun s =>
    p.ofVariables ((Assignment.ofFile p.variableNamed s).entries.map fun e => (e.1.shown, e.2)) name

/-- What is said about a setting in the first place that knows it. -/
def find (p : Places) (name : String) : Option Value :=
  (p.ofCaller name).or ((p.ofEnvironment name).or (p.ofFile name))

/-- A setting as it is read, or the usual one where no place knows it. -/
def setting {α : Type} (p : Places) (name : String) (usual : α) (reader : Value → Except Complaint α) :
    Except Issue α :=
  match p.find name with
  | none => .ok usual
  | some v =>
    match reader v with
    | .ok a => .ok a
    | .error c => .error ⟨name, c⟩

end Places

/-- The issue of a setting, if it has one. -/
def issue? {α : Type} : Except Issue α → Option Issue
  | .ok _ => none
  | .error i => some i

/-- The settings that the places tell, or everything that is wrong with them, by the names of the settings. -/
def read (p : Places) : Except (List Issue) Settings :=
  let usual : Settings := {}
  let keyType := p.setting "default_primary_key_type" usual.primaryKeyType readKeyType
  let records := p.setting "json_logs" usual.recordLogs readOptionalFlag
  let level := p.setting "log_level" usual.logLevel readText
  let quote := p.setting "quote_table_names" usual.quoteTableNames readFlag
  let lead := p.setting "warning_state_prefix" usual.warningLead readLead
  match keyType, records, level, quote, lead with
  | .ok keyType, .ok records, .ok level, .ok quote, .ok lead =>
    .ok ⟨quote, keyType, lead, level, records⟩
  | _, _, _, _, _ =>
    .error ((issue? keyType).toList ++ (issue? records).toList ++ (issue? level).toList ++ (issue? quote).toList ++
      (issue? lead).toList)

end Settings

end TableGateway
