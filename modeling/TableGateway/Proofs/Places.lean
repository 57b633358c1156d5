import TableGateway.Proofs.Origins
import TableGateway.Proofs.Sent

/-!
# Where an error says that it happened

An error that an operation answers with names the connection and the schema of the call, and an error of the engine the
statement that ran, wherever it was raised. One path adds no place: a statement of the caller goes to the dispatcher
without a look at the identity, and the dispatcher's own error for an unknown identity is answered as it was raised.

- **`own_creating`**, **`own_requesting`**: looking up and building raise no errors of the engine (`Own`);
- **`placed_iff`**: when exactly an error names its connection and its schema; an error of the engine always names its
  statement.
-/

namespace TableGateway

variable {σ κ π α β : Type}

/-! ## What computations raise -/

/-- Whatever the computation raises is such. -/
def Only {ε : Type} (P : ε → Prop) (x : Except ε α) : Prop := ∀ e, x = .error e → P e

/-- What is refused is such; faults may break out. -/
def Failure.Refuses (P : Error → Prop) : Failure → Prop
  | .refused e => P e
  | .broken _ => True

/-- No error of the engine. -/
def Error.Own (e : Error) : Prop := e.isDriver = false

def Failure.Own : Failure → Prop
  | .refused e => e.Own
  | .broken _ => True

section Steps

variable {ε : Type} {P : ε → Prop}

theorem only_ok (a : α) : Only P (.ok a : Except ε α) := fun _ raised => by cases raised

theorem only_error {e : ε} (h : P e) : Only P (.error e : Except ε α) := fun _ raised => by cases raised; exact h

theorem Only.bind {x : Except ε α} {f : α → Except ε β} (hx : Only P x) (hf : ∀ a, Only P (f a)) :
    Only P (x >>= f) := by
  cases x with
  | ok a => exact hf a
  | error e => exact only_error (hx e rfl)

theorem Only.map {x : Except ε α} {f : α → β} (hx : Only P x) : Only P (x.map f) := by
  cases x with
  | ok a => exact only_ok _
  | error e => exact only_error (hx e rfl)

theorem only_filterM {f : α → Except ε Bool} (hf : ∀ a, Only P (f a)) (as : List α) : Only P (as.filterM f) := by
  have kept (acc : List α) : Only P (List.filterAuxM f as acc) := by
    induction as generalizing acc with
    | nil => exact only_ok acc
    | cons a as ih => exact (hf a).bind fun _ => ih _
  exact (kept []).bind fun _ => only_ok _

theorem Only.mono {Q : ε → Prop} {x : Except ε α} (h : Only P x) (weaker : ∀ e, P e → Q e) : Only Q x :=
  fun e raised => weaker e (h e raised)

/-- What may run into a fault alone refuses nothing. -/
theorem refuses_fault {P : Error → Prop} (x : Except Fault α) :
    Only (Failure.Refuses P) (liftM x : Except Failure α) := by
  cases x with
  | ok a => exact only_ok a
  | error f => exact only_error trivial

theorem Only.refuses {P : Error → Prop} {x : Except Error α} (h : Only P x) :
    Only (Failure.Refuses P) (liftM x : Except Failure α) := by
  cases x with
  | ok a => exact only_ok a
  | error e => exact only_error (h e rfl)

theorem own_fault (x : Except Fault α) : Only Failure.Own (liftM x : Except Failure α) := refuses_fault x

theorem Only.lift {x : Except Error α} (own : Only Error.Own x) : Only Failure.Own (liftM x : Except Failure α) :=
  own.refuses

/-- A check of options raises errors about options. -/
theorem Options.Judged.own {x : Except Failure α} {faults : Prop} (h : Options.Judged x faults) :
    Only Failure.Own x := by
  by_cases bad : faults
  · obtain ⟨f, rfl⟩ := h.breaks bad
    exact only_error trivial
  · rcases h.settles bad with ⟨a, rfl⟩ | ⟨message, field, value, rfl⟩
    · exact only_ok a
    · exact only_error rfl

end Steps

/-! ## Looking up and building -/

section Building

variable {d : Dialect} {r : Registry σ κ π} {identity schemaName : Value}

/-- Only an unknown identity is refused. -/
theorem Registry.eq_of_resolve_refused {e : Error} (h : r.resolve identity = .error (.refused e)) :
    e = .of (.unknownIdentity identity) := by
  unfold resolve at h
  cases found : r.find identity with
  | error f => rw [found] at h; cases h
  | ok entry =>
    rw [found] at h
    cases entry with
    | none => cases h; rfl
    | some entry => cases h

theorem own_resolve : Only Failure.Own (r.resolve identity) := by
  intro f raised
  cases f with
  | refused e =>
    rw [Registry.eq_of_resolve_refused raised]
    rfl
  | broken f => trivial

theorem own_schema (entry : Entry κ π) : Only Failure.Own (entry.schema schemaName) := by
  refine (own_fault _).bind fun found => ?_
  cases found with
  | none => exact only_error rfl
  | some s => exact only_ok s

theorem own_tableOf : Only Failure.Own (Operation.tableOf r identity schemaName) := by
  refine own_resolve.bind fun entry => (own_fault _).bind fun found => ?_
  cases found with
  | none => exact only_ok _
  | some s => exact (own_fault _).bind fun _ => only_ok _

/-! ### Definitions -/

theorem own_readType (v : Value) : Only Error.Own (Attribute.readType v) := by
  unfold Attribute.readType
  split
  · exact only_ok _
  · split
    · exact only_ok _
    · exact only_error rfl

theorem own_ofMapping (t : Keyed Value) : Only Error.Own (Attribute.ofMapping t) := (own_readType _).map

theorem own_attribute (d : Description) : Only Failure.Own d.attribute? := by
  cases d with
  | value v => exact (own_fault _).bind fun t => (own_ofMapping t).lift
  | «attribute» a => exact only_ok a
  | schema s => exact only_error trivial
  | mapping es => exact (own_ofMapping _).lift

theorem own_readAttributes (es : List (Value × Description)) : Only Failure.Own (Schema.readAttributes es) := by
  induction es with
  | nil => exact only_ok _
  | cons e es ih => exact (own_attribute e.2).bind fun _ => ih.bind fun _ => only_ok _

theorem own_schemaMeant (d : Description) : Only Failure.Own (Gateway.schemaMeant schemaName d) := by
  have described : Only Failure.Own (Schema.ofDescription schemaName d) :=
    (own_fault _).bind fun t => (own_readAttributes t.entries).bind fun _ => only_ok _
  cases d with
  | schema s => exact only_ok s
  | _ => exact described

theorem own_columnDefinition (keyType : String) (name : Value) (a : Attribute) :
    Only Error.Own (Schema.columnDefinition keyType name a) := by
  have native : Only Error.Own (LogicalType.nativeOf (Attribute.typeValue a.type)) := by
    unfold LogicalType.nativeOf
    split
    · exact only_ok _
    · exact only_error rfl
  unfold Schema.columnDefinition
  split
  · exact only_ok _
  · exact only_ok _
  · exact Only.map (native.bind fun _ => only_ok _)

theorem own_columnDefinitions (keyType : String) (es : List (Value × Attribute)) :
    Only Error.Own (Schema.columnDefinitions keyType es) := by
  induction es with
  | nil => exact only_ok _
  | cons e es ih => exact (own_columnDefinition keyType e.1 e.2).bind fun _ => ih.bind fun _ => only_ok _

theorem own_creating {g : Gateway} (d : Description) :
    Only Failure.Own (Operation.creating g r identity schemaName d) :=
  own_resolve.bind fun _ => (own_schemaMeant d).bind fun _ => (own_columnDefinitions g.keyType _).lift.bind fun _ =>
    (own_fault _).bind fun _ => only_ok _

/-! ### Requests -/

/-- Only wanted columns that are not there are refused. -/
theorem only_projection (s : Schema) (select : Option (List String)) :
    Only (fun e => ∃ names, e = Query.noColumn names) (Query.projection s select) := by
  unfold Query.projection
  split
  · exact only_ok _
  · dsimp only
    split
    · exact only_error ⟨_, rfl⟩
    · exact only_ok _

theorem own_projection (s : Schema) (select : Option (List String)) : Only Error.Own (Query.projection s select) := by
  refine (only_projection s select).mono ?_
  rintro e ⟨names, rfl⟩
  rfl

theorem own_checkCountable (o : Options) : Only Error.Own (Query.checkCountable o) := by
  unfold Query.checkCountable
  split
  · exact only_error rfl
  · exact only_ok _

theorem own_coerce (given : OptionsGiven) : Only Failure.Own (Options.coerce given) :=
  (Options.judged_coerce given).own

theorem own_findWith (s : Schema) (o : Options) : Only Failure.Own (Query.findWith d s o) :=
  (own_projection s o.select).lift.bind fun _ => (own_fault _).bind fun _ => own_fault _

theorem own_statement (s : Schema) (q : Request) : Only Failure.Own (q.statement d s) := by
  cases q with
  | find given => exact (own_coerce given).bind fun o => own_findWith s o
  | findOne given =>
    exact (own_coerce given).bind fun o => (Options.judged_ofParts _).own.bind fun o' => own_findWith s o'
  | count given =>
    exact (own_coerce given).bind fun o => (own_checkCountable o).lift.bind fun _ => (own_fault _).bind fun _ =>
      own_fault _
  | create values =>
    refine (own_fault _).bind fun t => ?_
    dsimp only
    split
    · exact only_error rfl
    · exact (own_fault _).bind fun _ => own_fault _
  | update given values =>
    refine (own_coerce given).bind fun o => (own_fault _).bind fun t => ?_
    unfold Query.updateWith
    dsimp only
    split
    · exact only_error rfl
    · exact (own_fault _).bind fun _ => own_fault _
  | destroy given => exact (own_coerce given).bind fun o => (own_fault _).bind fun _ => own_fault _
  | truncate => exact own_fault _

/-- What a request to a plain value looks at. -/
theorem own_check (v : Value) (q : Request) : Only Failure.Own (q.check v) := by
  have selects (o : Options) : Only Failure.Own (Request.checkSelect v o) := by
    unfold Request.checkSelect
    split
    · exact only_ok _
    · refine (only_filterM (fun _ => own_fault _) _).bind fun _ => ?_
      split
      · exact only_error rfl
      · exact only_ok _
  have values (values : Value) {otherwise : Error} (own : otherwise.Own) :
      Only Failure.Own (Request.checkValues v values otherwise) := by
    refine (own_fault _).bind fun t => (only_filterM (fun _ => own_fault _) _).bind fun _ => ?_
    split
    · exact only_error own
    · exact only_ok _
  cases q with
  | find given => exact (own_coerce given).bind selects
  | findOne given => exact (own_coerce given).bind fun o => (Options.judged_ofParts _).own.bind selects
  | count given => exact (own_coerce given).bind fun o => (own_checkCountable o).lift
  | create vs => exact values vs rfl
  | update given vs => exact (own_coerce given).bind fun _ => values vs rfl
  | destroy given => exact (own_coerce given).bind fun _ => only_ok _
  | truncate => exact only_ok _

theorem own_requesting {g : Gateway} (q : Request) :
    Only Failure.Own (Operation.requesting g r identity schemaName q) := by
  refine own_resolve.bind fun entry => (own_schema entry).bind fun reg => ?_
  cases reg with
  | schema s => exact own_statement s q
  | other v =>
    refine only_error ?_
    unfold Request.failure
    cases checked : q.check v with
    | error f => exact own_check v q f checked
    | ok _ => trivial

/-- What is refused before any statement ran is no error of the engine. -/
theorem own_of_refuses {g : Gateway} {o : Operation} {raised : Error}
    (refused : o.Refuses g r identity schemaName raised) : raised.isDriver = false := by
  cases o with
  | define d => exact own_creating d _ refused
  | describe => exact own_tableOf _ refused
  | drop relations => exact own_tableOf _ refused
  | query sql params => exact refused.elim
  | request q => exact own_requesting q _ refused

end Building

/-! ## Places -/

namespace Error

/-- The error names the connection and the schema. -/
structure Placed (e : Error) (identity schemaName : Value) : Prop where
  identity : e.context.identity = identity
  schemaName : e.context.schemaName = schemaName

theorem placed_within (e : Error) (identity schemaName : Value) :
    (e.within identity schemaName).Placed identity schemaName := ⟨rfl, rfl⟩

end Error

theorem Dispatcher.placed_answerFor (identity schemaName : Value) (st : Statement) (raised : Error) :
    (answerFor identity schemaName st raised).Placed identity schemaName := by
  unfold answerFor
  split <;> exact ⟨rfl, rfl⟩

/-- An error of the engine names the statement that ran. -/
theorem Dispatcher.sql_answerFor {identity schemaName : Value} {st : Statement} {raised : Error}
    (driver : (answerFor identity schemaName st raised).isDriver = true) :
    (answerFor identity schemaName st raised).context.sql = .text st.sql := by
  have raisedDriver : raised.isDriver = true := by
    unfold Error.isDriver at driver ⊢
    rw [← kind_answerFor raised]
    exact driver
  unfold answerFor
  rw [if_pos raisedDriver]
  rfl

namespace Gateway

variable {g : Gateway} {identity schemaName : Value} {o : Operation} {w v : World σ κ π} {e : Error}

/-- **Where errors say that they happened.** An error that an operation answers with names the connection and the
schema, unless the operation is a statement of the caller and the identity is not registered: that error names neither,
and so fits only where there is nothing to name. An error of the engine names the statement of the operation that was
answered with it last. -/
theorem placed_iff (h : (g.perform identity schemaName o).run w = (.ok (.error e), v)) :
    (e.Placed identity schemaName ↔
      ((∃ sql params, o = .query sql params) → w.Knows identity ∨ identity = .null ∧ schemaName = .null)) ∧
    (e.isDriver = true → ∃ st u, o.Runs g w.registry identity schemaName st ∧
      (g.dispatcher.execute identity st schemaName).run u = (.ok (.error e), v) ∧ e.context.sql = .text st.sql) := by
  cases origin h with
  | @refused raised refused located _ =>
    subst located
    refine ⟨⟨fun _ asked => ?_, fun _ => Error.placed_within raised identity schemaName⟩, fun driver => ?_⟩
    · obtain ⟨sql, params, rfl⟩ := asked
      exact refused.elim
    · cases (own_of_refuses refused).symm.trans driver
  | @ran st u runs _ known answered =>
    rcases Dispatcher.exists_of_execute_error answered with ⟨unknown, _⟩ | ⟨entry, raised, _, found, _, rfl⟩
    · -- only a statement of the caller comes to the dispatcher with an unknown identity
      rcases known with ⟨_, entry, found⟩ | ⟨rfl, asked⟩
      · cases found.symm.trans unknown
      have missing : ¬u.Knows identity := by
        rintro ⟨entry, found⟩
        cases found.symm.trans unknown
      obtain rfl := Registry.eq_of_resolve_refused unknown
      refine ⟨⟨fun placed _ => Or.inr ⟨placed.identity.symm, placed.schemaName.symm⟩, fun named => ?_⟩, nofun⟩
      rcases named asked with known | ⟨rfl, rfl⟩
      · exact absurd known missing
      · exact ⟨rfl, rfl⟩
    · have known : w.Knows identity := by
        rcases known with ⟨known, _⟩ | ⟨rfl, _⟩
        · exact known
        · exact ⟨entry, found⟩
      refine ⟨⟨fun _ _ => Or.inl known, fun _ => Dispatcher.placed_answerFor ..⟩, fun driver => ?_⟩
      exact ⟨st, u, runs, answered, Dispatcher.sql_answerFor driver⟩

/-- An error of the engine names its connection, its schema and its statement. -/
theorem placed_engines :
    let w := kept (.steady (.ok ()) (.error (.refused (Error.engine "boom" "58004"))) (.ok ()))
    let ended := (perform {} (.text "a") (.text "s") (.query "SELECT 1" .null)).run w
    ∃ e, ended.1 = .ok (.error e) ∧ e.Placed (.text "a") (.text "s") ∧ e.context.sql = .text "SELECT 1" := by
  intro w ended
  have run : ended = (.ok (.error (((Error.engine "boom" "58004").within (.text "a") (.text "s")).executing
      "SELECT 1")), ended.2) := rfl
  obtain ⟨placed, named⟩ := placed_iff run
  obtain ⟨st, u, runs, _, sql⟩ := named rfl
  cases runs with
  | single built =>
    cases built
    exact ⟨_, rfl, placed.2 fun _ => Or.inl ⟨_, rfl⟩, sql⟩

/-- A statement of the caller for an identity that is not registered: the error does not name it. -/
theorem unplaced_query :
    let w : World Unit Unit Unit := { engine := (), registry := { driver := .steady (.ok ()) (.ok []) (.ok ()) } }
    ∃ e, ((perform {} (.text "nope") (.text "users") (.query "SELECT 1" .null)).run w).1 = .ok (.error e) ∧
      ¬e.Placed (.text "nope") (.text "users") := by
  intro w
  refine ⟨_, rfl, fun placed => ?_⟩
  cases placed.identity

end Gateway

end TableGateway
