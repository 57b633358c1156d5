import TableGateway.Proofs.Leads

/-!
# Operations and calls

An `Operation` is what a gateway can be asked to do with the table of a schema; `Gateway.perform` does it and answers
in one type. A `Call` is whatever may be asked of a gateway, of its dispatcher or of its registry, and `Call.run` does
it, whatever the answer.

- **`statement?`**: the statement of an operation that runs a single one, as the registry has it.
- **`leads_perform`**: an operation leads wherever its statements and the registration of a schema lead.
- **`leads_run`**: whatever is asked leads where calls to the driver and changes of the registry lead.
-/

namespace TableGateway

variable {σ κ π α : Type}

/-- What an operation answers with. -/
inductive Answer where
  | rows (rows : Dispatcher.Rows)
  | value (v : Value)
  | schema (s : Option Schema)

/-- What a gateway can be asked to do with the table of a schema. -/
inductive Operation where
  | define (d : Description)
  | describe
  | drop (relations : Value)
  | query (sql : String) (params : Value)
  | request (r : Request)

namespace Gateway

/-- The outcome with its value as an answer. -/
def answering (f : α → Answer) (x : Run σ κ π (Outcome Error α)) : Run σ κ π (Outcome Error Answer) := do
  let r ← x
  return Except.map f r

/-- Does what is asked of the rows of a table. -/
def performRequest (g : Gateway) (identity schemaName : Value) : Request → Run σ κ π (Outcome Error Answer)
  | .find options => answering .rows (g.find identity schemaName options)
  | .findOne options => answering .value (g.findOne identity schemaName options)
  | .count options => answering .value (g.count identity schemaName options)
  | .create values => answering .value (g.create identity schemaName values)
  | .update options values => answering .rows (g.update identity schemaName options values)
  | .destroy options => answering .rows (g.destroy identity schemaName options)
  | .truncate => answering .rows (g.truncate identity schemaName)

/-- Does what is asked of the table of a schema. -/
def perform (g : Gateway) (identity schemaName : Value) : Operation → Run σ κ π (Outcome Error Answer)
  | .define d => answering .rows (g.define identity schemaName d)
  | .describe => answering .schema (g.describe identity schemaName)
  | .drop relations => answering .rows (g.drop identity schemaName relations)
  | .query sql params => answering .rows (g.query identity schemaName sql params)
  | .request r => g.performRequest identity schemaName r

end Gateway

namespace Operation

/-- The statement that creates the table of a description, for a registered connection. -/
def creating (g : Gateway) (r : Registry σ κ π) (identity schemaName : Value) (d : Description) :
    Except Failure Statement := do
  let _ ← r.resolve identity
  let s ← Gateway.schemaMeant schemaName d
  Schema.createTable g.dialect g.keyType s.table s

/-- The name of the table of a schema, or the schema's own name when it is not registered. -/
def tableOf (r : Registry σ κ π) (identity schemaName : Value) : Except Failure Value := do
  let e ← r.resolve identity
  match ← (liftM (e.schemas.find schemaName) : Except Failure _) with
  | some s => return (← (liftM s.table? : Except Failure _)).getD schemaName
  | none => return schemaName

/-- The statement that asks the catalog for the table of a schema. -/
def describing (g : Gateway) (r : Registry σ κ π) (identity schemaName : Value) : Except Failure Statement := do
  liftM (Catalog.describe g.dialect (← tableOf r identity schemaName))

/-- The statement that a request means by the registered schema. -/
def requesting (g : Gateway) (r : Registry σ κ π) (identity schemaName : Value) (q : Request) :
    Except Failure Statement := do
  let e ← r.resolve identity
  q.build g.dialect (← e.schema schemaName)

/-- The statement of an operation, built from what the registry holds. A drop runs one for every table. -/
def statement? (g : Gateway) (r : Registry σ κ π) (identity schemaName : Value) :
    Operation → Option (Except Failure Statement)
  | .define d => some (creating g r identity schemaName d)
  | .describe => some (describing g r identity schemaName)
  | .drop _ => none
  | .query sql params => some (liftM (Dispatcher.statementOf sql params))
  | .request q => some (requesting g r identity schemaName q)

end Operation

/-- What may be asked of a gateway, of its dispatcher and of its registry. -/
inductive Call where
  | registerConnection (config : Registry.ConfigGiven) (schemas : Description)
  /-- Asks the gateway to tear down one connection, or all of them. -/
  | teardown (identity : Value)
  /-- Asks the same of the registry itself. -/
  | tearDownEntries (identity : Value)
  /-- Closes what an entry holds and leaves the entry where it is. -/
  | closeEntry (identity : Value)
  | addSchema (identity name : Value) (s : Registered)
  | execute (identity : Value) (s : Statement) (schemaName : Value)
  | operate (identity schemaName : Value) (o : Operation)

/-- Does what is asked. The answer and the failure concern the caller alone. -/
def Call.run (g : Gateway) : Call → Run σ κ π Unit
  | .registerConnection config schemas => do
    let _ ← Gateway.registerConnection config schemas
  | .teardown identity => do
    let _ ← Gateway.teardown identity
  | .tearDownEntries identity => Registry.teardown identity
  | .closeEntry identity => Registry.closeEntry identity
  | .addSchema identity name s => Registry.addSchema identity name s
  | .execute identity s schemaName => do
    let _ ← g.dispatcher.execute identity s schemaName
  | .operate identity schemaName o => do
    let _ ← g.perform identity schemaName o

/-! ## What is built from the registry -/

namespace Gateway

theorem fst_tableName (identity schemaName : Value) (w : World σ κ π) :
    ((tableName identity schemaName).run w).1 = Operation.tableOf w.registry identity schemaName := by
  unfold tableName Operation.tableOf
  rw [Registry.fst_resolved_bind]
  cases w.registry.resolve identity with
  | error f => rfl
  | ok e =>
    show ((Run.lift (liftM (e.schemas.find schemaName)) >>= _ : Run σ κ π _).run w).1 =
      ((liftM (e.schemas.find schemaName) >>= _ : Except Failure Value))
    rw [Run.fst_lift_bind]
    cases e.schemas.find schemaName with
    | error f => rfl
    | ok found =>
      cases found with
      | none => rfl
      | some s =>
        show ((Run.lift (liftM s.table?) >>= _ : Run σ κ π _).run w).1 = (liftM s.table? >>= _ : Except Failure Value)
        rw [Run.fst_lift_bind]
        cases s.table? <;> rfl

/-- The statement of a request is built as the registry has it. -/
theorem fst_request (g : Gateway) (identity schemaName : Value) (r : Request) (w : World σ κ π) :
    ((do
      let s ← registered identity schemaName
      Run.lift (r.build g.dialect s) : Run σ κ π _).run w).1 =
      Operation.requesting g w.registry identity schemaName r := by
  unfold registered Operation.requesting
  rw [Run.run_bind, Run.run_bind, Registry.run_resolved]
  cases w.registry.resolve identity with
  | error f => rfl
  | ok e =>
    dsimp only
    rw [Run.run_lift]
    show _ = (e.schema schemaName).bind fun s => r.build g.dialect s
    cases e.schema schemaName <;> rfl

/-- The statement of a definition, with the schema that it is made from. -/
theorem fst_define (g : Gateway) (identity schemaName : Value) (d : Description) (w : World σ κ π) :
    ((do
      let _ ← Registry.resolved identity
      let s ← Run.lift (schemaMeant schemaName d)
      let st ← Run.lift (Schema.createTable g.dialect g.keyType s.table s)
      return (s, st) : Run σ κ π _).run w).1.map Prod.snd = Operation.creating g w.registry identity schemaName d := by
  unfold Operation.creating
  simp only [Registry.fst_resolved_bind, Run.fst_lift_bind]
  cases w.registry.resolve identity with
  | error f => rfl
  | ok e =>
    cases schemaMeant schemaName d with
    | error f => rfl
    | ok s =>
      show Except.map Prod.snd (Except.bind (Schema.createTable g.dialect g.keyType s.table s) fun st => .ok (s, st)) =
        Schema.createTable g.dialect g.keyType s.table s
      cases Schema.createTable g.dialect g.keyType s.table s <;> rfl

end Gateway

/-! ## Where operations lead -/

namespace Gateway

variable {R : World σ κ π → World σ κ π → Prop} {g : Gateway} {identity schemaName : Value}

theorem leads_answering (h : Follows R) {f : α → Answer} {x : Run σ κ π (Outcome Error α)} (hx : Run.Leads R x) :
    Run.Leads R (answering f x) :=
  Run.leads_bind h hx fun _ => (Run.quiet_pure _).leads h

theorem leads_define (h : Follows R) (run : ∀ st, Run.Leads R (g.dispatcher.execute identity st schemaName))
    (adds : ∀ s, Run.Leads R (Registry.addSchema identity schemaName s)) (d : Description) :
    Run.Leads R (g.define identity schemaName d) := by
  have built : Run.Quiet (do
      let _ ← Registry.resolved identity
      let s ← Run.lift (schemaMeant schemaName d)
      let st ← Run.lift (Schema.createTable g.dialect g.keyType s.table s)
      return (s, st) : Run σ κ π _) :=
    Run.quiet_bind (Registry.quiet_resolved identity) fun _ => Run.quiet_bind (Run.quiet_lift _) fun _ =>
      Run.quiet_bind (Run.quiet_lift _) fun _ => Run.quiet_pure _
  refine Run.leads_bind h ((quiet_answered identity schemaName built).leads h) fun b => ?_
  cases b with
  | error e => exact (Run.quiet_pure _).leads h
  | ok b =>
    obtain ⟨s, st⟩ := b
    refine Run.leads_bind h (run st) fun r => ?_
    cases r with
    | ok rows => exact Run.leads_bind h (adds _) fun _ => (Run.quiet_pure _).leads h
    | error e => exact (Run.quiet_pure _).leads h

theorem leads_describe (h : Follows R) (run : ∀ st, Run.Leads R (g.dispatcher.execute identity st schemaName)) :
    Run.Leads R (g.describe identity schemaName) := by
  have named := quiet_answered identity schemaName (quiet_tableName (σ := σ) (κ := κ) (π := π) identity schemaName)
  refine Run.leads_bind h (named.leads h) fun t => ?_
  cases t with
  | error e => exact (Run.quiet_pure _).leads h
  | ok table =>
    refine Run.leads_bind h ((Run.quiet_lift _).leads h) fun st => Run.leads_bind h (run st) fun r => ?_
    cases r with
    | ok rows => exact Run.leads_bind h ((quiet_readCatalog table rows).leads h) fun _ => (Run.quiet_pure _).leads h
    | error e => exact (Run.quiet_pure _).leads h

theorem leads_drop (h : Follows R) (run : ∀ st, Run.Leads R (g.dispatcher.execute identity st schemaName))
    (relations : Value) : Run.Leads R (g.drop identity schemaName relations) := by
  have named := quiet_answered identity schemaName (quiet_tableName (σ := σ) (κ := κ) (π := π) identity schemaName)
  refine Run.leads_bind h (named.leads h) fun t => ?_
  cases t with
  | error e => exact (Run.quiet_pure _).leads h
  | ok table => exact Run.leads_bind h ((Run.quiet_lift _).leads h) fun rs => leads_dropEach h run table rs

theorem leads_performRequest (h : Follows R)
    (run : ∀ st, Run.Leads R (g.dispatcher.execute identity st schemaName)) (r : Request) :
    Run.Leads R (g.performRequest identity schemaName r) := by
  cases r with
  | findOne | count | create => exact leads_answering h (leads_mapped h (leads_request h run _))
  | find | update | destroy | truncate => exact leads_answering h (leads_request h run _)

/-- An operation leads wherever its statements lead, and the registration of a schema. -/
theorem leads_perform (h : Follows R) (run : ∀ st, Run.Leads R (g.dispatcher.execute identity st schemaName))
    (adds : ∀ s, Run.Leads R (Registry.addSchema identity schemaName s)) (o : Operation) :
    Run.Leads R (g.perform identity schemaName o) := by
  cases o with
  | define d => exact leads_answering h (leads_define h run adds d)
  | describe => exact leads_answering h (leads_describe h run)
  | drop relations => exact leads_answering h (leads_drop h run relations)
  | query sql params => exact leads_answering h (Run.leads_bind h ((Run.quiet_lift _).leads h) run)
  | request r => exact leads_performRequest h run r

end Gateway

/-! ## Where calls lead -/

section Calls

variable {R : World σ κ π → World σ κ π → Prop}

/-- Whatever is asked leads where calls to the driver lead and changes of the registry, which never change its
driver. -/
theorem Call.leads_run (h : Follows R) (calls : FollowsCalls R)
    (connects : ∀ cs, Run.Leads R (Run.call fun d => d.connect cs))
    (changes : ∀ f : Registry σ κ π → Registry σ κ π, (∀ r, (f r).driver = r.driver) →
      Run.Leads R (Run.changeRegistry f)) (g : Gateway) (c : Call) : Run.Leads R (c.run g) := by
  have puts (w : World σ κ π) (identity : Value) (e : Entry κ π) :
      R w { w with registry := w.registry.update identity e } :=
    changes (fun r => r.update identity e) (fun _ => rfl) w
  have removed (w : World σ κ π) (f : Registry σ κ π → Registry σ κ π) (still : ∀ r, (f r).driver = r.driver)
      (identity : Value) (e : Entry κ π) :
      R w ((Registry.closeRemoved identity e).run { w with registry := f w.registry }).2 := by
    have closed := Registry.leads_closeHeld h calls (e := e) { w with registry := f w.registry }
    exact h.trans (changes f still w) (h.trans closed (h.alike (Registry.alike_closeRemoved identity e _)))
  have tornDown (identity : Value) : Run.Leads R (Registry.teardown identity) := by
    refine Registry.leads_teardown h (fun _ w => ?_) fun w e _ =>
      removed w (·.remove identity) (fun _ => rfl) identity e
    refine Registry.leads_tearDownEach h (fun v i e es _ => ?_) _ w rfl
    exact removed v (fun r => { r with entries := ⟨es⟩ }) (fun _ => rfl) i e
  have added (identity name : Value) (s : Registered) : Run.Leads R (Registry.addSchema identity name s) :=
    Registry.leads_addSchema h fun w e _ => puts w identity _
  have executed (identity : Value) (s : Statement) (schemaName : Value) :
      Run.Leads R (g.dispatcher.execute identity s schemaName) := by
    refine Dispatcher.leads_execute h fun w e _ => Dispatcher.leads_withConnection h calls fun _ => ?_
    exact Dispatcher.leads_openKept h connects (fun v c => puts v identity _) w
  cases c with
  | registerConnection config schemas =>
    refine Run.leads_dropped h (Run.leads_settle (Registry.leads_register h calls ?_ config schemas))
    exact fun w c ss pool _ => puts w c.identity _
  | teardown identity => exact Run.leads_dropped h (Run.leads_settle (tornDown identity))
  | tearDownEntries identity => exact tornDown identity
  | closeEntry identity => exact Registry.leads_closeEntry h calls fun w e _ => puts w identity _
  | addSchema identity name s => exact added identity name s
  | execute identity s schemaName => exact Run.leads_dropped h (executed identity s schemaName)
  | operate identity schemaName o =>
    refine Run.leads_dropped h (Gateway.leads_perform h (fun st => executed identity st schemaName) ?_ o)
    exact fun s => added identity schemaName s

end Calls

end TableGateway
