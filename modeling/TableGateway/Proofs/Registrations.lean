import TableGateway.Journal.Line
import TableGateway.Proofs.Entries
import TableGateway.Proofs.Recorded

/-!
# Registrations

A registration comes in two parts. The first one reads the configuration and the schemas, makes the pool and adds the
entry; the second one tells the journal. The first part is whole by itself: it ends well with one more entry at the end
of the registry, or it fails and the registry is as it was. The second part comes after the entry is there, and it may
fail, for names that have no order, or for a note that cannot be written.

- **`run_register`**: a registration is its two parts;
- **`run_enter`**: the first part is whole;
- **`register_whole_iff`**: a registration is whole exactly unless its second part fails.
-/

namespace TableGateway.Registry

variable {σ κ π : Type} {d : Driver σ κ π}

/-! ## Two parts -/

/-- The configuration that is handed over. -/
def ConfigGiven.read : ConfigGiven → Except Failure Config
  | .built c => .ok c
  | .value v => (Config.ofValue v).2

/-- All of a registration up to the new entry. -/
def enter (given : ConfigGiven) (schemas : Description) : Run σ κ π (Config × Keyed Schema) := do
  let c ← configOf given
  checkFree c.identity
  let ss ← Run.lift (coerceSchemas schemas)
  let pool ← poolOf c
  Run.changeRegistry fun r => r.update c.identity { config := c, schemas := ss.map .schema, pool := pool }
  return (c, ss)

/-- The rest of a registration. -/
def tell (c : Config) (ss : Keyed Schema) : Run σ κ π Value := do
  let names ← Run.lift (liftM (Value.sort ss.keys))
  Run.log (registeredNote c names)
  return c.identity

theorem run_register (given : ConfigGiven) (schemas : Description) (w : World σ κ π) :
    (register given schemas).run w = (enter given schemas >>= fun made => tell made.1 made.2).run w := by
  unfold register enter
  simp only [Run.run_bind]
  rcases (configOf given).run w with ⟨_ | c, w⟩
  · rfl
  dsimp only
  rcases (checkFree c.identity).run w with ⟨_ | _, w⟩
  · rfl
  dsimp only [Run.run_lift]
  cases coerceSchemas schemas with
  | error f => rfl
  | ok ss =>
    dsimp only
    rcases (poolOf c).run w with ⟨_ | pool, w⟩ <;> rfl

/-! ## Whole registrations -/

/-- Is the identity given, and is nothing registered under it? -/
def Free (identity : Value) (w : World σ κ π) : Prop :=
  identity.isTruthy = true ∧ w.registry.entries.lookup identity = none

/-- The pool of a new entry: none unless the configuration asks for one, and then one that was made once, with the
connection string of the configuration. -/
inductive Pooled (c : Config) (w : RecordedWorld σ κ π) : Option (Numbered π) → RecordedWorld σ κ π → Prop
  | without {v : RecordedWorld σ κ π} (asks : c.pool.isTruthy = false) (record : v.record = w.record) :
    Pooled c w none v
  | made {v : RecordedWorld σ κ π} (asks : c.pool.isTruthy = true) (p : π)
    (record : v.record = w.record ++ [.createPool c.connectionString (.ok w.record.length)]) :
    Pooled c w (some ⟨w.record.length, p⟩) v

/-- The registry has one more entry, which comes last and holds what was handed over, and no open connection. -/
structure Entered (given : ConfigGiven) (schemas : Description) (w : RecordedWorld σ κ π) (c : Config)
    (ss : Keyed Schema) (v : RecordedWorld σ κ π) : Prop where
  config : given.read = .ok c
  schemas : coerceSchemas schemas = .ok ss
  free : Free c.identity w
  registry : ∃ pool, Pooled c w pool v ∧ v.registry = { w.registry with entries :=
    ⟨w.registry.entries.entries ++
      [(c.identity, { config := c, schemas := ss.map .schema, pool := pool, conn := none })]⟩ }

/-- The registry is as it was. The driver was called for nothing, but for the pool that it did not make. -/
structure Undone (given : ConfigGiven) (w : RecordedWorld σ κ π) (f : Failure) (v : RecordedWorld σ κ π) : Prop where
  registry : v.registry = w.registry
  record : v.record = w.record ∨ ∃ c, given.read = .ok c ∧ Free c.identity w ∧ c.pool.isTruthy = true ∧
    v.record = w.record ++ [.createPool c.connectionString (.error f)]

/-- A registration is whole when all of it is done, and it answers with the identity, or when it fails and nothing is
done. -/
inductive Whole (given : ConfigGiven) (schemas : Description) (w : RecordedWorld σ κ π) :
    Except Failure Value → RecordedWorld σ κ π → Prop
  | done {c : Config} {ss : Keyed Schema} {v : RecordedWorld σ κ π} (entered : Entered given schemas w c ss v) :
    Whole given schemas w (.ok c.identity) v
  | undone {f : Failure} {v : RecordedWorld σ κ π} (undone : Undone given w f v) : Whole given schemas w (.error f) v

/-- The names of the schemas have an order, and the journal takes the note. -/
def Announces (c : Config) (ss : Keyed Schema) (w : World σ κ π) : Prop :=
  ∃ names, Value.sort ss.keys = .ok names ∧ w.writes ⟨registeredNote c names, w.bound⟩ = .ok ()

section

variable {given : ConfigGiven} {schemas : Description} {w v : RecordedWorld σ κ π}

theorem Undone.of_alike (a : w.Alike v) (f : Failure) : Undone given w f v :=
  ⟨a.registry, .inl (RecordedWorld.record_alike a)⟩

theorem read_of_run_configOf {c : Config} (h : (configOf given).run w = (.ok c, v)) : given.read = .ok c := by
  cases given with
  | built c' =>
    cases h
    rfl
  | value g =>
    obtain ⟨_, _, _, read⟩ := Run.exists_of_run_bind_ok h
    exact congrArg Prod.fst read

theorem free_of_run_checkFree {identity : Value} (h : (checkFree identity).run w = (.ok (), v)) : Free identity w := by
  refine ⟨?_, (run_checkFree_ok h).2⟩
  unfold checkFree at h
  split at h
  · assumption
  · cases h

theorem Entered.of_update {c : Config} {ss : Keyed Schema} {pool : Option (Numbered π)} {u : RecordedWorld σ κ π}
    (read : given.read = .ok c) (coerced : coerceSchemas schemas = .ok ss) (free : Free c.identity w)
    (same : u.registry = w.registry) (pooled : Pooled c w pool u) :
    Entered given schemas w c ss { u with
      registry := u.registry.update c.identity { config := c, schemas := ss.map .schema, pool := pool } } := by
  refine ⟨read, coerced, free, pool, ?_, ?_⟩
  · cases pooled with
    | without asks record => exact .without asks record
    | made asks p record => exact .made asks p record
  · dsimp only
    rw [same, update, Keyed.put_new free.2]

/-- Entering is whole. -/
theorem run_enter (driver : w.registry.driver = d.recorded) {r : Except Failure (Config × Keyed Schema)}
    (run : (enter given schemas).run w = (r, v)) : match r with
      | .ok (c, ss) => Entered given schemas w c ss v
      | .error f => Undone given w f v := by
  -- Up to the pool nothing but the journal changes, and after the pool nothing fails.
  unfold enter at run
  have reading := quiet_configOf given w
  rcases read : (configOf given).run w with ⟨_ | c, w₁⟩
  · rw [Run.run_bind_error read] at run
    rw [read] at reading
    cases run
    exact .of_alike reading _
  rw [read] at reading
  have checking := reading.trans (quiet_checkFree c.identity w₁)
  rw [Run.run_bind_ok read] at run
  rcases checked : (checkFree c.identity).run w₁ with ⟨_ | _, w₂⟩
  · rw [Run.run_bind_error checked] at run
    rw [checked] at checking
    cases run
    exact .of_alike checking _
  rw [checked] at checking
  have free : Free c.identity w := by
    obtain ⟨given, absent⟩ := free_of_run_checkFree checked
    exact ⟨given, by rw [← reading.registry]; exact absent⟩
  rw [Run.run_bind_ok checked, Run.run_bind, Run.run_lift] at run
  cases coerced : coerceSchemas schemas with
  | error f =>
    rw [coerced] at run
    cases run
    exact .of_alike checking _
  | ok ss =>
    rw [coerced] at run
    dsimp only at run
    have before : RecordedWorld.record w₂ = w.record := RecordedWorld.record_alike checking
    obtain ⟨asks, made⟩ | ⟨asks, q, w₃, made, adds⟩ := run_poolOf (w := w₂) (by rw [checking.registry]; exact driver) c
    · rw [Run.run_bind_ok made] at run
      cases run
      exact .of_update (read_of_run_configOf read) coerced free checking.registry (.without asks before)
    · have record := adds.record
      rw [before] at made record
      cases q with
      | error f =>
        rw [Run.run_bind_error made] at run
        cases run
        exact ⟨adds.registry.trans checking.registry, .inr ⟨c, read_of_run_configOf read, free, asks, record⟩⟩
      | ok p =>
        rw [Run.run_bind_ok made] at run
        cases run
        have same := adds.registry.trans checking.registry
        exact .of_update (read_of_run_configOf read) coerced free same (.made asks p record)

theorem Free.not_taken {identity : Value} (free : Free identity w) :
    ¬(identity.isTruthy = false ∨ w.registry.entries.has identity = true) := by
  obtain ⟨given, absent⟩ := free
  simp [given, Keyed.has, absent]

/-! ## Telling the journal -/

theorem quiet_tell (c : Config) (ss : Keyed Schema) : Run.Quiet (tell c ss : Run σ κ π Value) :=
  Run.quiet_bind (Run.quiet_lift _) fun _ => Run.quiet_bind (Run.quiet_log _) fun _ => Run.quiet_pure _

theorem fst_tell {w : World σ κ π} {c : Config} {ss : Keyed Schema} (announces : Announces c ss w) :
    ((tell c ss).run w).1 = .ok c.identity := by
  obtain ⟨names, sorted, written⟩ := announces
  rw [tell, sorted]
  exact congrArg Prod.fst (Run.run_bind_ok (Run.run_log written))

theorem announces_of_run_tell {c : Config} {ss : Keyed Schema} {x : Value} (h : (tell c ss).run w = (.ok x, v)) :
    Announces c ss w := by
  obtain ⟨names, _, sorted, told⟩ := Run.exists_of_run_bind_ok h
  obtain ⟨_, _, logged, _⟩ := Run.exists_of_run_bind_ok told
  cases named : Value.sort ss.keys with
  | error f =>
    rw [named] at sorted
    cases sorted
  | ok names' =>
    rw [named] at sorted
    cases sorted
    refine ⟨names, named, ?_⟩
    rcases refused : w.writes ⟨registeredNote c names, w.bound⟩ with f | _
    · unfold Run.log at logged
      dsimp only at logged
      rw [refused] at logged
      cases logged
    · rfl

theorem Entered.alike {c : Config} {ss : Keyed Schema} {u : RecordedWorld σ κ π} (h : Entered given schemas w c ss v)
    (a : v.Alike u) : Entered given schemas w c ss u := by
  obtain ⟨pool, pooled, registry⟩ := h.registry
  have same : u.record = v.record := RecordedWorld.record_alike a
  refine ⟨h.config, h.schemas, h.free, pool, ?_, a.registry.trans registry⟩
  cases pooled with
  | without asks record => exact .without asks (same.trans record)
  | made asks p record => exact .made asks p (same.trans record)

/-- Something was entered, so it is not undone. -/
theorem Entered.registry_ne {c : Config} {ss : Keyed Schema} (h : Entered given schemas w c ss v) :
    v.registry ≠ w.registry := by
  obtain ⟨pool, _, registry⟩ := h.registry
  intro same
  have longer := congrArg (fun r => r.entries.entries.length) (registry.symm.trans same)
  simp at longer

/-- **Registration is all or nothing** exactly when nothing can go wrong once the entry is there: whenever there is a
new entry, the names of its schemas have an order and the journal takes the note. A missing or a taken identity is
always refused, and nothing is done. -/
theorem register_whole_iff (driver : w.registry.driver = d.recorded) {r : Except Failure Value}
    (run : (register given schemas).run w = (r, v)) :
    (Whole given schemas w r v ↔
      ∀ c ss u, (enter given schemas).run w = (.ok (c, ss), u) → Announces c ss u) ∧
    ∀ c, given.read = .ok c → c.identity.isTruthy = false ∨ w.registry.entries.has c.identity = true →
      (∃ f, r = .error f) ∧ v.registry = w.registry ∧ v.record = w.record := by
  rw [run_register] at run
  rcases entering : (enter given schemas).run w with ⟨f | ⟨c, ss⟩, u⟩
  · have undone : Undone given w f u := run_enter driver entering
    rw [Run.run_bind_error entering] at run
    cases run
    refine ⟨⟨fun _ c ss u made => (by cases made), fun _ => .undone undone⟩, fun c read not => ?_⟩
    refine ⟨⟨f, rfl⟩, undone.registry, undone.record.resolve_right ?_⟩
    rintro ⟨c', read', free, _⟩
    rw [read] at read'
    cases read'
    exact free.not_taken not
  · have entered : Entered given schemas w c ss u := run_enter driver entering
    refine ⟨?_, fun c' read not => ?_⟩
    · have told : u.Alike v := by
        have quiet := quiet_tell c ss u
        rw [Run.run_bind_ok entering] at run
        rwa [run] at quiet
      rw [Run.run_bind_ok entering] at run
      constructor
      · -- a registration that fails here has left its entry behind
        intro whole c' ss' u' made
        cases made
        cases whole with
        | done _ => exact announces_of_run_tell run
        | undone undone => exact absurd undone.registry (entered.alike told).registry_ne
      · intro announced
        have ended := fst_tell (announced c ss u rfl)
        rw [run] at ended
        cases ended
        exact .done (entered.alike told)
    · have same := entered.config.symm.trans read
      cases same
      exact absurd not entered.free.not_taken

end

/-- One identity is registered. -/
def withOne (d : Driver Unit Unit Unit) : RecordedWorld Unit Unit Unit where
  engine := { engine := () }
  registry := { driver := d.recorded, entries := ⟨[(.text "a", { config := { identity := .text "a" } })]⟩ }

/-- Another identity with a pool and a schema is registered as a whole; the same identity is not registered again. -/
theorem register_whole_pooled :
    let d := Driver.steady (.ok ()) (.ok []) (.ok ())
    let given := ConfigGiven.built { identity := .text "b", pool := .bool true }
    let schemas := Description.mapping [(.text "notes", .mapping [])]
    (∃ v : RecordedWorld Unit Unit Unit, (register given schemas).run (withOne d) = (.ok (.text "b"), v) ∧
      Whole given schemas (withOne d) (.ok (.text "b")) v) ∧
    ∃ v : RecordedWorld Unit Unit Unit,
      (register (.built { identity := .text "a", pool := .bool true }) schemas).run (withOne d) =
        (.error (.refused (.of (.duplicateIdentity (.text "a")))), v) ∧ v.record = (withOne d).record := by
  intro d given schemas
  refine ⟨⟨_, rfl, ?_⟩, ⟨_, rfl, ?_⟩⟩
  · refine (register_whole_iff (d := d) rfl rfl).1.2 fun c ss u made => ?_
    cases made
    exact ⟨_, rfl, rfl⟩
  · have run : (register (.built { identity := .text "a", pool := .bool true }) schemas).run (withOne d) =
        (.error (.refused (.of (.duplicateIdentity (.text "a")))), _) := rfl
    obtain ⟨_, refused⟩ := register_whole_iff (d := d) rfl run
    exact (refused _ rfl (.inr rfl)).2.2

/-- What the journal takes when events are written as records. -/
def takesRecords (l : Logged) : Except Fault Unit :=
  (LogSetup.line? { format := some ⟨20, true, true⟩, floor := some 20 } "" l.bound l.note).map fun _ => ()

/-- The names of two schemas have no order, or a setting does not fit into a record: the registration fails, but the
entry is there, with its pool. -/
theorem register_unannounced :
    let w := withOne (.steady (.ok ()) (.ok []) (.ok ()))
    let unordered := (register (.value (.map [(.text "identity", .text "b")]))
      (.mapping [(.int 1, .mapping []), (.text "notes", .mapping [])])).run w
    let unwritten := (register (.value (.map [(.text "identity", .text "b"), (.text "pool", .bool true),
      (.text "user", .map [(.tuple [.int 1], .int 1)])])) (.value .null)).run { w with writes := takesRecords }
    w.registry.identities = [.text "a"] ∧
    (unordered.1 = .error (.broken .wrongKind) ∧ unordered.2.registry.identities = [.text "a", .text "b"]) ∧
    (unwritten.1 = .error (.broken .wrongKind) ∧ unwritten.2.registry.identities = [.text "a", .text "b"]) :=
  ⟨rfl, ⟨rfl, rfl⟩, rfl, rfl⟩

end TableGateway.Registry
