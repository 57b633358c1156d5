import TableGateway.Proofs.Scopes

/-!
# What a journal takes

Logging fails only when the journal refuses the note, so a run that has to end in some way asks its journal to take the
notes that it writes (`World.Takes`). A journal that is written by a log setup refuses a note for its fields, or for
what is bound meanwhile: they may not go by the names that stand for the writing itself, and a record has to hold them.
Notes and bindings without such names, and with values that records can hold, are called plain here.

- **`takes_plain`**: every log setup takes plain notes under plain bindings;
- **`World.takes_of_plain`**: so does a world whose journal is written by one.
-/

namespace TableGateway

variable {σ κ π : Type}

namespace LogSetup

/-! ## What records can hold -/

/-- A record can hold the value. -/
def Holds (v : Value) : Prop := ∃ u, recordValue v = .ok u

theorem holds_text (s : String) : Holds (.text s) := ⟨_, rfl⟩

theorem holds_bool (b : Bool) : Holds (.bool b) := ⟨_, rfl⟩

theorem holds_int (n : Int) : Holds (.int n) := ⟨_, rfl⟩

theorem holds_null : Holds .null := ⟨_, rfl⟩

theorem holds_list {vs : List Value} (members : ∀ v ∈ vs, Holds v) : Holds (.list vs) := by
  have all : ∃ us, recordValues vs = .ok us := by
    induction vs with
    | nil => exact ⟨[], rfl⟩
    | cons v vs ih =>
      obtain ⟨u, first⟩ := members v (.head _)
      obtain ⟨us, rest⟩ := ih fun v' among => members v' (.tail _ among)
      exact ⟨u :: us, by rw [recordValues, first, rest]; rfl⟩
  obtain ⟨us, all⟩ := all
  exact ⟨.list us, by rw [recordValue, all]; rfl⟩

/-- A record can hold all fields. -/
def HoldsAll (fields : List (String × Value)) : Prop := ∀ e ∈ fields, Holds e.2

theorem HoldsAll.filter {fields : List (String × Value)} (h : HoldsAll fields) (p : String × Value → Bool) :
    HoldsAll (fields.filter p) :=
  fun e he => h e (List.mem_filter.1 he).1

theorem HoldsAll.cons {fields : List (String × Value)} (h : HoldsAll fields) (name : String) {v : Value}
    (held : Holds v) : HoldsAll ((name, v) :: fields) := by
  intro e he
  rcases List.mem_cons.1 he with rfl | he
  · exact held
  · exact h e he

theorem HoldsAll.set {fields : List (String × Value)} (h : HoldsAll fields) (name : String) {v : Value}
    (held : Holds v) : HoldsAll (LogSetup.set fields name v) :=
  (h.filter _).cons name held

theorem HoldsAll.setDefault {fields : List (String × Value)} (h : HoldsAll fields) (name : String) {v : Value}
    (held : Holds v) : HoldsAll (LogSetup.setDefault fields name v) := by
  unfold LogSetup.setDefault
  split
  · exact h
  · exact h.cons name held

theorem HoldsAll.rename {fields : List (String × Value)} (h : HoldsAll fields) (old new : String) :
    HoldsAll (LogSetup.rename fields old new) := by
  unfold LogSetup.rename
  split
  · next e found => exact (h.filter _).set new (h e (List.mem_of_find?_eq_some found))
  · exact h

theorem HoldsAll.under {fields : List (String × Value)} (h : HoldsAll fields) {b : Bindings}
    (bound : HoldsAll b.entries) : HoldsAll (b.under fields).entries := by
  intro e he
  rcases List.mem_append.1 he with own | around
  · exact h e own
  · exact bound.filter _ e around

theorem HoldsAll.recordFields {fields : List (String × Value)} (h : HoldsAll fields) :
    ∃ record, LogSetup.recordFields fields = .ok record := by
  induction fields with
  | nil => exact ⟨[], rfl⟩
  | cons e es ih =>
    obtain ⟨name, v⟩ := e
    obtain ⟨u, first⟩ := h _ (.head _)
    obtain ⟨us, rest⟩ := ih fun e he => h e (.tail _ he)
    exact ⟨(name, u) :: us, by rw [LogSetup.recordFields, first, rest]; rfl⟩

/-- The fields of an event's record can be held when its own can and those that are bound. -/
theorem holdsAll_fields {s : LogSetup} (service : Holds s.service) (f : LogFormat) (now : String) {b : Bindings}
    {n : Note} (own : HoldsAll n.fields) (bound : HoldsAll b.entries) : HoldsAll (s.fields f now b n) := by
  have named := own.set "event" (holds_text n.event)
  have timed : HoldsAll
      (if f.timestamps then set (set n.fields "event" (.text n.event)) "timestamp" (.text now)
        else set n.fields "event" (.text n.event)) := by
    split
    · exact named.set _ (holds_text _)
    · exact named
  have placed := (((timed.under bound).set "level" (holds_text n.level.name)).set "logger"
    (holds_text n.source.name)).filter fun e => e.1 != "stack_info"
  exact ((placed.setDefault "service.name" service).rename "timestamp" "@timestamp").rename "level" "log.level"

end LogSetup

/-! ## Plain notes -/

/-- A record can hold the note, and nothing of it stands for its writing. -/
structure Note.Plain (n : Note) : Prop where
  values : LogSetup.HoldsAll n.fields
  names : ∀ e ∈ n.fields, e.1 ≠ "method_name" ∧ e.1 ≠ "_record"

namespace Note.Plain

variable {source : Source} {level : Level} {event name : String} {v : Value} {fields : List (String × Value)}

theorem none : Note.Plain ⟨source, level, event, []⟩ := ⟨nofun, nofun⟩

theorem cons (free : name ≠ "method_name" ∧ name ≠ "_record") (held : LogSetup.Holds v)
    (h : Note.Plain ⟨source, level, event, fields⟩) : Note.Plain ⟨source, level, event, (name, v) :: fields⟩ where
  values := h.values.cons name held
  names e he := by
    rcases List.mem_cons.1 he with rfl | he
    · exact free
    · exact h.names e he

theorem one (free : name ≠ "method_name" ∧ name ≠ "_record") (held : LogSetup.Holds v) :
    Note.Plain ⟨source, level, event, [(name, v)]⟩ :=
  cons free held none

end Note.Plain

/-- A record can hold what is bound, and nothing of it stands for the record itself. -/
structure Bindings.Plain (b : Bindings) : Prop where
  values : LogSetup.HoldsAll b.entries
  names : ∀ e ∈ b.entries, e.1 ≠ "_record"

theorem Bindings.plain_nil : ({} : Bindings).Plain := ⟨nofun, nofun⟩

/-- Bindings stay plain in the scope of a statement whose identity and schema a record can hold. -/
theorem Bindings.Plain.scope {b : Bindings} (h : b.Plain) {identity schemaName : Value}
    (identified : LogSetup.Holds identity) (named : LogSetup.Holds schemaName) :
    (b.enter (Dispatcher.scopeOf identity schemaName)).Plain := by
  have own : ∀ e ∈ Dispatcher.scopeOf identity schemaName, LogSetup.Holds e.2 ∧ e.1 ≠ "_record" := by
    intro e he
    simp only [Dispatcher.scopeOf, List.mem_cons, List.not_mem_nil, or_false] at he
    rcases he with rfl | rfl
    · exact ⟨identified, show "identity" ≠ "_record" by decide⟩
    · exact ⟨named, show "schema" ≠ "_record" by decide⟩
  constructor
  · intro e he
    rcases mem_enter he with given | before
    · exact (own e (List.mem_filter.1 given).1).1
    · exact h.values e before
  · intro e he
    rcases mem_enter he with given | before
    · exact (own e (List.mem_filter.1 given).1).2
    · exact h.names e before

namespace LogSetup

theorem checkWritten_plain {b : Bindings} {n : Note} (note : n.Plain) (bound : b.Plain) :
    checkWritten b n = .ok () := by
  have given : (n.fields.any fun e => e.1 == "method_name") = false := by
    rw [List.any_eq_false]
    exact fun e he named => (note.names e he).1 (beq_iff_eq.1 named)
  have unbound : "_record" ∉ (b.under n.fields).entries.map Prod.fst := by
    intro h
    obtain ⟨e, he, named⟩ := List.mem_map.1 h
    rcases List.mem_append.1 he with own | around
    · exact (note.names e own).2 named
    · exact bound.names e (List.mem_filter.1 around).1 named
  rw [checkWritten, given, if_neg (by decide), Bindings.get?_eq_none unbound]

theorem exists_render {s : LogSetup} (service : Holds s.service) (now : String) {b : Bindings} {n : Note}
    (note : n.Plain) (bound : b.Plain) : ∃ line, s.render now b n = .ok line := by
  unfold render
  cases s.format with
  | none => exact ⟨_, rfl⟩
  | some f =>
    obtain ⟨record, held⟩ := (holdsAll_fields service f now note.values bound.values).recordFields
    dsimp only
    rw [checkWritten_plain note bound, held]
    cases f.records <;> exact ⟨_, rfl⟩

/-- What a setup takes at a time. -/
def takes (s : LogSetup) (now : String) (l : Logged) : Except Fault Unit := (s.line? now l.bound l.note).map fun _ => ()

/-- Every setup takes a plain note under plain bindings, whether it is written or not. -/
theorem takes_plain {s : LogSetup} (service : Holds s.service) (now : String) {l : Logged} (note : l.note.Plain)
    (bound : l.bound.Plain) : s.takes now l = .ok () := by
  obtain ⟨line, rendered⟩ := exists_render service now note bound
  unfold takes line?
  rw [rendered]
  split <;> rfl

/-- Events are written as records, from the usual level on. -/
def recording : LogSetup := { format := some ⟨20, true, true⟩, floor := some 20 }

theorem holds_recording : Holds recording.service := holds_text _

end LogSetup

/-- A world whose journal is written by a log setup takes plain notes under plain bindings. -/
theorem World.takes_of_plain {w : World σ κ π} {notes : Note → Prop} {s : LogSetup} {now : String}
    (service : LogSetup.Holds s.service) (writes : w.writes = s.takes now) (bound : w.bound.Plain)
    (plain : ∀ n, notes n → n.Plain) : w.Takes notes := by
  intro n among
  rw [writes]
  exact LogSetup.takes_plain service now (plain n among) bound

end TableGateway
