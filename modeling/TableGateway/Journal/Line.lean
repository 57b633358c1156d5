import TableGateway.Arguments
import TableGateway.Journal.Bindings
import TableGateway.Journal.Note
import TableGateway.Text.Upper
import TableGateway.Value.Text

/-!
# Log lines

A log setup says which events are written and how. What is set up is the gateway's own choice; what becomes of an event
then is told as the documentation of the logging libraries describes it, and no property of the gateway rests on more of
it than whether an event is taken. An event is written when its level reaches both the setup's threshold and the
threshold of the first setup there was. A written event is a line for the console, or a record of named fields: those of
the event, then what is bound, then what the setup adds.

- **`isShown_of_rank`**: an event that is written stays written when its level rises.
-/

namespace TableGateway

/-- How events are written. -/
structure LogFormat where
  /-- The least rank of an event that is written. -/
  threshold : Nat
  records : Bool
  timestamps : Bool

structure LogSetup where
  format : Option LogFormat := none
  service : Value := .text "db2bridge"
  /-- The threshold of the first setup, which stays. -/
  floor : Option Nat := none

/-- What is written for one event. -/
inductive Line where
  /-- So many lines for the console. -/
  | console (lines : Nat)
  | record (fields : List (String × Value))

namespace LogSetup

/-! ## Setting up -/

/-- The thresholds by name. -/
def thresholds : List (String × Nat) :=
  [("NOTSET", 0), ("DEBUG", 10), ("INFO", 20), ("WARN", 30), ("WARNING", 30), ("ERROR", 40), ("CRITICAL", 50),
    ("FATAL", 50)]

/-- Names beside the thresholds that stand for something else, with the fault of taking it for a threshold. -/
def otherNames : List (String × Fault) := [("BASIC_FORMAT", .missingKey), ("_STYLES", .wrongKind)]

/-- The threshold that a value names, in either case. -/
def threshold : Value → Except Fault Nat
  | .text s =>
    match thresholds.lookup (Text.upper s) with
    | some n => .ok n
    | none => .error ((otherNames.lookup (Text.upper s)).getD .noSuchOperation)
  | .bytes _ => .error .wrongKind
  | _ => .error .noSuchOperation

def signature : Signature := ⟨["level", "json_format", "service", "add_timestamp"], [], []⟩

/-- The setup after asking for another one. The service is taken over even when the level is refused. -/
def configure (s : LogSetup) (given : Keyed Value) : LogSetup × Except Fault Unit :=
  match signature.bind [] given with
  | .error f => (s, .error f)
  | .ok t =>
    let s := { s with service := t.getD "service" (.text "db2bridge") }
    match threshold (t.getD "level" (.text "INFO")) with
    | .error f => (s, .error f)
    | .ok n =>
      let records := match t.getD "json_format" .null with
        | .null => true
        | v => v.isTruthy
      let format : LogFormat := ⟨n, records, (t.getD "add_timestamp" (.bool true)).isTruthy⟩
      ({ s with format := some format, floor := some (s.floor.getD n) }, .ok ())

/-- Does an event of this rank reach the setup's threshold? Before any setup all do. -/
def isTaken (s : LogSetup) (rank : Nat) : Bool :=
  match s.format with
  | none => true
  | some f => f.threshold ≤ rank

/-- Is an event of this level written? -/
def isShown (s : LogSetup) (l : Level) : Bool := s.isTaken l.rank && s.floor.getD 0 ≤ l.rank

theorem isShown_of_rank {s : LogSetup} {l m : Level} (h : l.rank ≤ m.rank) (shown : s.isShown l = true) :
    s.isShown m = true := by
  simp only [isShown, isTaken, Bool.and_eq_true, decide_eq_true_eq] at shown ⊢
  refine ⟨?_, Nat.le_trans shown.2 h⟩
  cases hf : s.format with
  | none => rfl
  | some f =>
    have taken := shown.1
    simp only [hf, decide_eq_true_eq] at taken ⊢
    exact Nat.le_trans taken h

/-! ## Writing an event -/

/-- The fields with a value under a name, replacing any there. -/
def set (fields : List (String × Value)) (name : String) (v : Value) : List (String × Value) :=
  (name, v) :: fields.filter fun e => e.1 != name

/-- The fields with a value under a name unless there is one. -/
def setDefault (fields : List (String × Value)) (name : String) (v : Value) : List (String × Value) :=
  if fields.any fun e => e.1 == name then fields else (name, v) :: fields

/-- The fields with one of them under another name. -/
def rename (fields : List (String × Value)) (old new : String) : List (String × Value) :=
  match fields.find? fun e => e.1 == old with
  | some e => set (fields.filter fun e => e.1 != old) new e.2
  | none => fields

/-- An event's fields as they are handed to whoever watches: its own, what is bound, its level and its name. -/
def observed (b : Bindings) (n : Note) : List (String × Value) :=
  set (set (b.under n.fields).entries "level" (.text n.level.name)) "event" (.text n.event)

/-- The fields of an event's record. -/
def fields (s : LogSetup) (f : LogFormat) (now : String) (b : Bindings) (n : Note) : List (String × Value) :=
  let own := set n.fields "event" (.text n.event)
  let timed := if f.timestamps then set own "timestamp" (.text now) else own
  let placed := set (b.under timed).entries "level" (.text n.level.name)
  let named := (set placed "logger" (.text n.source.name)).filter fun e => e.1 != "stack_info"
  rename (rename (setDefault named "service.name" s.service) "timestamp" "@timestamp") "level" "log.level"

/-! ## Records -/

/-- How numbers are written as keys. -/
def keyStyle : Binary64.NumberStyle := { Binary64.style with infinity := "Infinity", notNumber := "NaN" }

/-- A key of a record. -/
def recordKey : Value → Except Fault String
  | .text s => .ok s
  | .int n => .ok (toString n)
  | .float x => .ok (x.text keyStyle)
  | .bool b => .ok (if b then "true" else "false")
  | .null => .ok "null"
  | _ => .error .wrongKind

mutual
/-- A value as records hold it: sequences are lists, keys are texts, and what a record cannot hold is written as
its literal. -/
def recordValue : Value → Except Fault Value
  | .list xs | .tuple xs => (recordValues xs).map .list
  | .map es => (recordEntries es).map .map
  | .set xs => .ok (.text (Value.set xs).literal)
  | .bytes bs => .ok (.text (Value.bytes bs).literal)
  | .decimal d => .ok (.text (Value.decimal d).literal)
  | .record kind parts => .ok (.text (Value.record kind parts).literal)
  | v => .ok v

def recordValues : List Value → Except Fault (List Value)
  | [] => .ok []
  | x :: xs => do
    let y ← recordValue x
    let ys ← recordValues xs
    return y :: ys

def recordEntries : List (Value × Value) → Except Fault (List (Value × Value))
  | [] => .ok []
  | (k, v) :: es => do
    let k ← recordKey k
    let v ← recordValue v
    let es ← recordEntries es
    return (.text k, v) :: es
end

/-- All fields as a record holds them. -/
def recordFields : List (String × Value) → Except Fault (List (String × Value))
  | [] => .ok []
  | (k, v) :: es => do
    let v ← recordValue v
    let es ← recordFields es
    return (k, v) :: es

/-- A caller's event may not bring fields that stand for the event itself. -/
def checkFields (fields : List (String × Value)) : Except Fault Unit :=
  if fields.any fun e => e.1 == "event" || e.1 == "self" then .error .wrongKind else .ok ()

/-- An event that is written may not bring what stands for its writing, nor may that be bound. -/
def checkWritten (b : Bindings) (n : Note) : Except Fault Unit :=
  if n.fields.any fun e => e.1 == "method_name" then .error .wrongKind
  else match (b.under n.fields).get? "_record" with
    | none | some .null => .ok ()
    | some _ => .error .noSuchOperation

/-- The lines that a text goes over. -/
def lineCount (s : String) : Nat := s.toList.count '\n' + 1

/-- An event worked out, whether it is written or not. -/
def render (s : LogSetup) (now : String) (b : Bindings) (n : Note) : Except Fault Line := do
  let console := Line.console (lineCount (n.event ++ n.source.name))
  match s.format with
  | none => return console
  | some f =>
    checkWritten b n
    if f.records then return .record (← recordFields (s.fields f now b n)) else return console

/-- What is written for an event, if anything is. An event that only the first setup's threshold holds back is worked
out all the same. -/
def line? (s : LogSetup) (now : String) (b : Bindings) (n : Note) : Except Fault (Option Line) := do
  if s.isTaken n.level.rank then
    let line ← s.render now b n
    return if s.isShown n.level then some line else none
  else return none

end LogSetup

end TableGateway
