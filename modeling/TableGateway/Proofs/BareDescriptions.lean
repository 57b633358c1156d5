import TableGateway.Proofs.Courses
import TableGateway.Proofs.Pairs
import TableGateway.Proofs.Registrations

/-!
# Descriptions handed over at registration

A table is described by the attributes of its columns. A definition takes such a description as it stands. A
registration takes it as it stands, or as the entry `definition` of a mapping that may name the table beside it; which
of the two it has, it tells by whether there is an entry of that name. Both read the same schema, unless a column of the
table goes by that name itself: then the attribute of this one column is read as the description of the whole table
(`Mistaken`). No other name of a column is taken for anything else.

- **`exists_meant`**, **`registered_of_entries`**: what a definition reads, and what a registration reads;
- **`run_register_ready`**, **`run_register_unread`**: how a registration ends where only its schemas can go wrong;
- **`registers_bare_iff`**: when a registration keeps all columns, as a definition does.
-/

namespace TableGateway

variable {σ κ π : Type} {name : Value} {d : Description} {sch : Schema}

/-! ## What a description means -/

/-- Attributes that can be read are read one by one. -/
theorem Schema.exists_readAttributes {es : List (Value × Description)}
    (accepted : ∀ e ∈ es, ∃ a, e.2.attribute? = .ok a) :
    ∃ as, readAttributes es = .ok as ∧ List.Forall₂ (fun e a => e.1 = a.1 ∧ e.2.attribute? = .ok a.2) es as := by
  induction es with
  | nil => exact ⟨[], rfl, .nil⟩
  | cons e es ih =>
    obtain ⟨a, read⟩ := accepted e (.head _)
    obtain ⟨as, rest, alike⟩ := ih fun e' among => accepted e' (.tail _ among)
    refine ⟨(e.1, a) :: as, ?_, .cons ⟨rfl, read⟩ alike⟩
    rw [readAttributes, read, rest]
    rfl

namespace Description

/-- A bare description means a schema with all its columns. -/
theorem exists_meant {t : Keyed Description} (bare : d.entries? = .ok t)
    (accepted : ∀ e ∈ t.entries, ∃ a, e.2.attribute? = .ok a) (name : Value) :
    ∃ sch, Gateway.schemaMeant name d = .ok sch ∧ sch.table = name ∧
      t.Alike (fun x a => x.attribute? = .ok a) sch.attributes := by
  obtain ⟨as, read, alike⟩ := Schema.exists_readAttributes accepted
  have described : Schema.ofDescription name d = .ok ⟨name, ⟨as⟩⟩ := by
    unfold Schema.ofDescription
    rw [bare]
    show (Schema.readAttributes t.entries >>= fun as => .ok (⟨name, ⟨as⟩⟩ : Schema)) = _
    rw [read]
    rfl
  refine ⟨⟨name, ⟨as⟩⟩, ?_, rfl, alike⟩
  cases d with
  | schema s => cases bare
  | _ => exact described

/-! ## What a registration reads -/

theorem registered_of_entries {t : Keyed Description} (entries : d.entries? = .ok t) (name : Value) :
    d.registered name = match t.lookup (.text "definition") with
      | some definition => Schema.ofDescription (tableName t name) definition
      | none => Schema.ofDescription name d := by
  cases d with
  | value v =>
    cases v with
    | map es =>
      cases entries
      rfl
    | _ => cases entries
  | mapping es =>
    cases entries
    rfl
  | _ => cases entries

/-- The description has a column called `definition`, and read as the description of the whole table, the attribute of
this column is not the schema. -/
def Mistaken (name : Value) (d : Description) (sch : Schema) : Prop :=
  ∃ t definition, d.entries? = .ok t ∧ t.lookup (.text "definition") = some definition ∧
    Schema.ofDescription (tableName t name) definition ≠ .ok sch

/-- A registration reads what a definition reads exactly when nothing is mistaken. -/
theorem registered_eq_ok_iff (means : Gateway.schemaMeant name d = .ok sch) :
    d.registered name = .ok sch ↔ ¬Mistaken name d sch := by
  constructor
  · rintro read ⟨t, definition, entries, found, other⟩
    rw [registered_of_entries entries, found] at read
    exact other read
  · intro right
    cases d with
    | schema s => exact means
    | _ =>
      obtain ⟨t, entries, _⟩ := bind_eq_ok means
      have entries := Failure.ok_of_lift_fault entries
      rw [registered_of_entries entries]
      cases found : t.lookup (.text "definition") with
      | none => exact means
      | some definition => exact Classical.not_not.1 fun other => right ⟨t, definition, entries, found, other⟩

end Description

namespace Registry

variable {given : ConfigGiven} {schemas : Description} {c : Config} {w : World σ κ π}

/-- One description is handed over under one name. -/
theorem coerceSchemas_one (only : schemas.entries? = .ok ⟨[(name, d)]⟩) :
    coerceSchemas schemas = (d.registered name).map fun s => ⟨[(name, s)]⟩ := by
  have counts : schemas.isGiven = true := by
    cases schemas with
    | value v =>
      cases v with
      | map es =>
        cases es with
        | nil => cases only
        | cons e es => rfl
      | _ => cases only
    | mapping es =>
      cases only
      rfl
    | _ => cases only
  unfold coerceSchemas
  rw [if_pos counts, only]
  show (coerceEntries [(name, d)] >>= fun ss => .ok (⟨ss⟩ : Keyed Schema)) = _
  unfold coerceEntries
  cases d.registered name <;> rfl

/-! ## Registrations that nothing but their schemas stands in the way of -/

/-- The notes on a registration: on what of the configuration is passed over, and on the entry once it is there. -/
inductive RegistrationNotes (given : ConfigGiven) (schemas : Description) : Note → Prop
  | passedOver {v : Value} {n : Note} (value : given = .value v) (tells : n ∈ (Config.ofValue v).1) :
    RegistrationNotes given schemas n
  | registered {c : Config} {ss : Keyed Schema} {names : List Value} (read : given.read = .ok c)
    (coerced : coerceSchemas schemas = .ok ss) (sorted : Value.sort ss.keys = .ok names) :
    RegistrationNotes given schemas (registeredNote c names)

/-- A record can hold the note on an entry when it can hold the settings that are told and the names of the schemas. -/
theorem plain_registeredNote {names : List Value} (settings : LogSetup.HoldsAll c.safeSettings)
    (named : ∀ n ∈ names, LogSetup.Holds n) : (registeredNote c names).Plain where
  values e among := by
    rcases List.mem_append.1 among with setting | last
    · exact settings e setting
    · rw [List.mem_singleton.1 last]
      exact LogSetup.holds_list named
  names e among := by
    have free : ∀ name ∈ ["identity", "host", "port", "database", "user", "ssl", "pool", "migrate", "schemas"],
      name ≠ "method_name" ∧ name ≠ "_record" := by decide
    exact free e.1 (List.mem_map_of_mem (f := Prod.fst) among)

/-- The configuration can be read, its identity is free, the pool that it asks for is made, and the journal takes the
notes on the registration. -/
structure Ready (given : ConfigGiven) (schemas : Description) (c : Config) (w : World σ κ π) : Prop where
  config : given.read = .ok c
  free : Free c.identity w
  key : c.identity.isKey = true
  pool : c.pool.isTruthy = true → ∃ p s, w.registry.driver.createPool c.connectionString w.engine = (.ok p, s)
  journal : w.Takes (RegistrationNotes given schemas)

/-- The configuration is what can be read. -/
theorem run_configOf (takes : w.Takes (RegistrationNotes given schemas)) :
    ∃ v, (configOf given).run w = (given.read, v) ∧ w.Alike v ∧ v.bound = w.bound := by
  cases given with
  | built c => exact ⟨w, rfl, .refl w, rfl⟩
  | value x =>
    obtain ⟨v, noted, same⟩ := Run.run_logAll_ok fun n tells => takes n (.passedOver rfl tells)
    have bound := Run.leavesBound_logAll (Config.ofValue x).1 w
    rw [noted] at bound
    refine ⟨v, ?_, same, bound⟩
    unfold configOf
    rw [Run.run_bind_ok noted]
    rfl

theorem run_configOf_ok (takes : w.Takes (RegistrationNotes given schemas)) (read : given.read = .ok c) :
    ∃ v, (configOf given).run w = (.ok c, v) ∧ w.Alike v ∧ v.bound = w.bound := by
  rw [← read]
  exact run_configOf takes

theorem run_checkFree_of_free {identity : Value} (free : Free identity w) (key : identity.isKey = true) :
    (checkFree identity).run w = (.ok (), w) := by
  unfold checkFree
  rw [if_pos free.1, Run.run_bind_ok (Run.run_registry w), find, Keyed.find, if_pos key, free.2]
  rfl

theorem run_poolOf_ok
    (made : c.pool.isTruthy = true → ∃ p s, w.registry.driver.createPool c.connectionString w.engine = (.ok p, s)) :
    ∃ pool v, (poolOf c).run w = (.ok pool, v) ∧ v.registry = w.registry ∧ v.writes = w.writes ∧ v.bound = w.bound := by
  unfold poolOf
  by_cases asks : c.pool.isTruthy = true
  · obtain ⟨p, s, called⟩ := made asks
    rw [if_pos asks, Run.run_bind_ok (Run.run_call (f := fun d => d.createPool c.connectionString) called)]
    exact ⟨some p, _, rfl, rfl, rfl, rfl⟩
  · rw [if_neg asks]
    exact ⟨none, w, rfl, rfl, rfl, rfl⟩

/-- Where only the schemas can go wrong, schemas that can be read make a registration end well. -/
theorem run_register_ready {ss : Keyed Schema} {names : List Value} (ready : Ready given schemas c w)
    (coerced : coerceSchemas schemas = .ok ss) (sorted : Value.sort ss.keys = .ok names) :
    ∃ pool v, (register given schemas).run w = (.ok c.identity, v) ∧ v.registry = { w.registry with entries :=
      ⟨w.registry.entries.entries ++ [(c.identity, { config := c, schemas := ss.map .schema, pool := pool })]⟩ } := by
  obtain ⟨w₁, read, same, bound₁⟩ := run_configOf_ok ready.journal ready.config
  have free : Free c.identity w₁ := ⟨ready.free.1, by rw [same.registry]; exact ready.free.2⟩
  obtain ⟨pool, w₂, pooled, registry, writes, bound₂⟩ : ∃ pool v, (poolOf c).run w₁ = (.ok pool, v) ∧
      v.registry = w₁.registry ∧ v.writes = w₁.writes ∧ v.bound = w₁.bound := by
    apply run_poolOf_ok
    rw [same.registry, same.engine]
    exact ready.pool
  let entered : World σ κ π := { w₂ with
    registry := w₂.registry.update c.identity { config := c, schemas := ss.map .schema, pool := pool } }
  have journal : entered.Takes (RegistrationNotes given schemas) :=
    ready.journal.congr (writes.trans same.writes) (bound₂.trans bound₁)
  have written := journal _ (.registered ready.config coerced sorted)
  have run : (register given schemas).run w =
      (.ok c.identity, { entered with journal := entered.journal ++ [⟨registeredNote c names, entered.bound⟩] }) := by
    unfold register
    rw [Run.run_bind_ok read, Run.run_bind_ok (run_checkFree_of_free free ready.key), Run.run_bind, Run.run_lift,
      coerced]
    dsimp only
    rw [Run.run_bind_ok pooled, Run.run_bind_ok (Run.run_changeRegistry _ w₂), sorted]
    exact Run.run_bind_ok (Run.run_log written)
  refine ⟨pool, _, run, ?_⟩
  show w₂.registry.update c.identity _ = _
  rw [registry, same.registry, update, Keyed.put_new ready.free.2]

/-- Schemas that cannot be read make it fail, and nothing is registered. -/
theorem run_register_unread {f : Failure} (ready : Ready given schemas c w)
    (failed : coerceSchemas schemas = .error f) :
    ∃ v, (register given schemas).run w = (.error f, v) ∧ v.registry = w.registry := by
  obtain ⟨v, read, same, -⟩ := run_configOf_ok ready.journal ready.config
  have free : Free c.identity v := ⟨ready.free.1, by rw [same.registry]; exact ready.free.2⟩
  refine ⟨v, ?_, same.registry⟩
  unfold register
  rw [Run.run_bind_ok read, Run.run_bind_ok (run_checkFree_of_free free ready.key), Run.run_bind, Run.run_lift, failed]

/-! ## The same schema -/

/-- The registration answers with the identity, and one entry more is there, with this one schema. -/
def Registers (given : ConfigGiven) (schemas : Description) (w : World σ κ π) (c : Config) (name : Value)
    (sch : Schema) : Prop :=
  ∃ e v, (register given schemas).run w = (.ok c.identity, v) ∧
    v.registry.entries.entries = w.registry.entries.entries ++ [(c.identity, e)] ∧ e.schemas = ⟨[(name, .schema sch)]⟩

/-- The schema that is registered is the one that is read. -/
theorem registers_iff (ready : Ready given schemas c w) (only : schemas.entries? = .ok ⟨[(name, d)]⟩) :
    Registers given schemas w c name sch ↔ d.registered name = .ok sch := by
  cases read : d.registered name with
  | error f =>
    have failed : coerceSchemas schemas = .error f := by
      rw [coerceSchemas_one only, read]
      rfl
    obtain ⟨v, run, -⟩ := run_register_unread ready failed
    constructor
    · rintro ⟨e, v', run', -, -⟩
      cases run.symm.trans run'
    · intro impossible
      cases impossible
  | ok sch' =>
    have coerced : coerceSchemas schemas = .ok ⟨[(name, sch')]⟩ := by
      rw [coerceSchemas_one only, read]
      rfl
    have sorted : Value.sort [name] = .ok [name] := rfl
    obtain ⟨pool, v, run, registry⟩ := run_register_ready ready coerced sorted
    constructor
    · rintro ⟨e, v', run', entries, schemas⟩
      cases run.symm.trans run'
      rw [registry] at entries
      obtain ⟨-, last⟩ := List.append_inj' entries rfl
      cases last
      cases schemas
      rfl
    · intro same
      cases same
      exact ⟨_, v, run, by rw [registry], rfl⟩

/-- **When a registration keeps all columns.** Take a bare description, the attributes of whose columns can be read. It
means a schema of the table of this name, with these columns in this order and these attributes. Wherever a definition
of it is answered well, this schema is registered under the name. Wherever nothing but its schemas stands in the way of
a registration, the registration of the description answers with the identity and registers this schema, exactly unless
the description is mistaken. -/
theorem registers_bare_iff {t : Keyed Description} (bare : d.entries? = .ok t)
    (accepted : ∀ e ∈ t.entries, ∃ a, e.2.attribute? = .ok a) (name : Value) :
    ∃ sch, Gateway.schemaMeant name d = .ok sch ∧ sch.table = name ∧
      t.Alike (fun x a => x.attribute? = .ok a) sch.attributes ∧
      (∀ (given : ConfigGiven) (c : Config) (schemas : Description) (w : World σ κ π), Ready given schemas c w →
        schemas.entries? = .ok ⟨[(name, d)]⟩ →
        (Registers given schemas w c name sch ↔ ¬Description.Mistaken name d sch)) ∧
      ∀ (g : Gateway) (identity : Value) (w v : World σ κ π) (rows : Dispatcher.Rows), w.registry.entries.Distinct →
        (g.define identity name d).run w = (.ok (.ok rows), v) →
        v.registry.schemasOf identity = (w.registry.schemasOf identity).map fun t => t.put name (.schema sch) := by
  obtain ⟨sch, means, table, attributes⟩ := Description.exists_meant bare accepted name
  refine ⟨sch, means, table, attributes, ?_, ?_⟩
  · intro given c schemas w ready only
    rw [registers_iff ready only, Description.registered_eq_ok_iff means]
  · intro g identity w v rows distinct run
    rcases Gateway.define_cases run with ⟨_, s, st, _, making, defines⟩ | ⟨other, _⟩
    · obtain ⟨e, found, meant, _⟩ := Operation.of_making making
      cases means.symm.trans meant
      have after := (defines distinct).2 identity
      rwa [Defined, if_pos (Keyed.same_self_of_lookup (lookup_of_resolve found))] at after
    · exact absurd rfl (other rows)

/-- Nothing is registered yet. The journal is written as records. -/
def vacant : World Unit Unit Unit where
  engine := ()
  registry := { driver := .steady (.ok ()) (.ok []) (.ok ()) }
  writes := LogSetup.recording.takes ""

/-- The notes on the registration of a plain connection are written. -/
theorem takes_vacant {schemas : Description} (named : ∀ ss names, coerceSchemas schemas = .ok ss →
    Value.sort ss.keys = .ok names → ∀ n ∈ names, LogSetup.Holds n) :
    vacant.Takes (RegistrationNotes (.built { identity := .text "a" }) schemas) := by
  refine World.takes_of_plain LogSetup.holds_recording rfl Bindings.plain_nil fun n among => ?_
  cases among with
  | passedOver value => cases value
  | registered read coerced sorted =>
    cases read
    refine plain_registeredNote (fun e setting => ?_) (named _ _ coerced sorted)
    simp only [Config.safeSettings, List.mem_cons, List.not_mem_nil, or_false] at setting
    rcases setting with rfl | rfl | rfl | rfl | rfl | rfl | rfl | rfl <;> exact ⟨_, rfl⟩

/-- A column may go by the name of a table's name. -/
theorem registers_bare_columns :
    let given := ConfigGiven.built { identity := .text "a" }
    let d := Description.value (.map [(.text "tableName", .map [(.text "type", .text "string")]),
      (.text "body", .map [(.text "type", .text "text")])])
    ∃ sch, Gateway.schemaMeant (.text "notes") d = .ok sch ∧ sch.table = .text "notes" ∧
      sch.columns = [.text "tableName", .text "body"] ∧
      Registers given (.mapping [(.text "notes", d)]) vacant { identity := .text "a" } (.text "notes") sch := by
  intro given d
  have accepted : ∀ e ∈ [(Value.text "tableName", Description.value (.map [(.text "type", .text "string")])),
      (.text "body", .value (.map [(.text "type", .text "text")]))], ∃ a, e.2.attribute? = .ok a := by
    intro e among
    simp only [List.mem_cons, List.not_mem_nil, or_false] at among
    rcases among with rfl | rfl
    · exact ⟨_, rfl⟩
    · exact ⟨_, rfl⟩
  obtain ⟨sch, means, table, -, registers, -⟩ :=
    registers_bare_iff (σ := Unit) (κ := Unit) (π := Unit) (d := d) rfl accepted (.text "notes")
  have takes : vacant.Takes (RegistrationNotes given (.mapping [(.text "notes", d)])) := by
    refine takes_vacant fun ss names coerced sorted => ?_
    cases coerced
    cases sorted
    exact fun n among => List.mem_singleton.1 among ▸ LogSetup.holds_text "notes"
  have ready : Ready given (.mapping [(.text "notes", d)]) { identity := .text "a" } vacant :=
    ⟨rfl, ⟨rfl, rfl⟩, rfl, nofun, takes⟩
  refine ⟨sch, means, table, ?_, (registers _ _ _ _ ready rfl).2 ?_⟩
  · cases means
    rfl
  · rintro ⟨t, definition, entries, found, -⟩
    cases entries
    cases found

/-- A column called `definition` is taken for the table: the registration breaks, or columns are lost. -/
theorem mistaken_column :
    let given := ConfigGiven.built { identity := .text "a" }
    let text := Value.map [(.text "type", .text "text")]
    let d := Description.value (.map [(.text "definition", text)])
    let d' := Description.value (.map [(.text "definition", .map []), (.text "body", text)])
    (∃ sch, Gateway.schemaMeant (.text "notes") d = .ok sch ∧ sch.columns = [.text "definition"]) ∧
      ((register given (.mapping [(.text "notes", d)])).run vacant).1 = .error (.broken .noSuchOperation) ∧
      (∃ sch, Gateway.schemaMeant (.text "notes") d' = .ok sch ∧ sch.columns = [.text "definition", .text "body"]) ∧
      Registers given (.mapping [(.text "notes", d')]) vacant { identity := .text "a" } (.text "notes")
        ⟨.text "notes", {}⟩ :=
  ⟨⟨_, rfl, rfl⟩, rfl, ⟨_, rfl, rfl⟩, _, _, rfl, rfl, rfl⟩

end Registry

end TableGateway
