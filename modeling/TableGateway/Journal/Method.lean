import TableGateway.Journal.Line

/-!
# Methods of a logger

A caller hands an event to a logger by one of the logger's methods, which are those of the logging library. Most of them
log it at a level; some make something of it that never comes to be written, and some cannot take an event.

- **`ofName?_level`**: a level is a method of its name.
- **`emit_level`**: an event handed over at a level is written as an event of that level.
-/

namespace TableGateway

/-- How an event is handed over. -/
inductive Method where
  /-- At a level. -/
  | at (l : Level)
  /-- As an error, with the exception that is being handled. -/
  | exception
  /-- Below all levels. -/
  | unranked
  /-- To be logged later, by a task that nobody starts. -/
  | task
  deriving DecidableEq

namespace Method

/-- The method of a name that logs at once. -/
def immediate? (name : String) : Option Method :=
  if name = "exception" then some .exception
  else if name = "notset" then some .unranked
  else (Level.ofName? name).map .at

/-- The method of a name; each has a companion for tasks, with a letter before its name. -/
def ofName? (name : String) : Option Method :=
  (immediate? name).or <|
    match name.toList with
    | 'a' :: r => (immediate? (String.ofList r)).map fun _ => .task
    | _ => none

/-- Names of a logger that are no ways of handing an event over, with the fault of trying. -/
def otherNames : List (String × Fault) :=
  [("log", .wrongKind), ("alog", .wrongKind), ("bind", .wrongKind), ("new", .wrongKind), ("unbind", .missingKey),
    ("is_enabled_for", .wrongKind), ("get_effective_level", .wrongKind)]

/-- The fault of taking a name for a method. -/
def refusal (name : String) : Fault := (otherNames.lookup name).getD .noSuchOperation

theorem ofName?_level (l : Level) : ofName? l.name = some (.at l) := by cases l <;> rfl

end Method

namespace LogSetup

/-- What is written for an event that a caller hands over, if anything is. An event below all levels is worked out when
the threshold lets it through, but then nothing takes it. -/
def emit (s : LogSetup) (now : String) (b : Bindings) (method logger event : String) (fields : List (String × Value)) :
    Except Fault (Option Line) := do
  let note (l : Level) (fields : List (String × Value)) : Note := ⟨.caller logger, l, event, fields⟩
  match Method.ofName? method with
  | none => throw (Method.refusal method)
  | some m =>
    checkFields fields
    match m with
    | .at l => s.line? now b (note l fields)
    | .exception => s.line? now b (note .error (setDefault fields "exc_info" (.bool true)))
    | .unranked =>
      if s.isTaken 0 then
        let _ ← s.render now b (note .debug fields)
        throw .noSuchOperation
      else return none
    | .task => return none

theorem emit_level {s : LogSetup} {now : String} {b : Bindings} {l : Level} {logger event : String}
    {fields : List (String × Value)} (h : checkFields fields = .ok ()) :
    s.emit now b l.name logger event fields = s.line? now b ⟨.caller logger, l, event, fields⟩ := by
  unfold emit
  rw [Method.ofName?_level]
  simp only [h]
  rfl

end LogSetup

end TableGateway
