import TableGateway.Proofs.Origins

/-!
# Services

A `Service` is what a gateway offers to its callers: connections are registered and torn down, and tables are operated
on. `Service.run` does it and replies with one outcome. Errors are raised in many places on the way: a configuration or
a description is refused, an identity is unknown, the driver reports an error while it opens, acquires, queries, closes
or disposes. `Answers x` says that none of them leaves the run `x` as it was raised.

- **`answers_execute`**: an error of running a statement is answered, wherever it was raised;
- **`answers_define`**: the registration of a schema, which is not guarded, finds its identity known;
- **`settled`**: a service replies, unless a fault leaves it.
-/

namespace TableGateway

variable {σ κ π α β : Type}

/-- What a gateway offers to its callers. -/
inductive Service where
  | register (config : Registry.ConfigGiven) (schemas : Description)
  /-- Tears down one connection, or all of them. -/
  | teardown (identity : Value)
  | operate (identity schemaName : Value) (o : Operation)

/-- What a service replies when all went well. -/
inductive Reply where
  | registered (identity : Value)
  | tornDown
  | answered (a : Answer)

/-- Does what is asked and replies with the outcome. -/
def Service.run (g : Gateway) : Service → Run σ κ π (Outcome Error Reply)
  | .register config schemas => do return Except.map Reply.registered (← Gateway.registerConnection config schemas)
  | .teardown identity => do return Except.map (fun _ => Reply.tornDown) (← Gateway.teardown identity)
  | .operate identity schemaName o => do return Except.map Reply.answered (← g.perform identity schemaName o)

namespace Run

/-- No error leaves the run unanswered. -/
def Answers (x : Run σ κ π α) : Prop := ∀ w e, (x.run w).1 ≠ .error (.refused e)

/-! ## How runs are put together -/

theorem answers_pure (a : α) : Answers (pure a : Run σ κ π α) := fun _ _ ended => by cases ended

theorem answers_broken (f : Fault) : Answers (fail (.broken f) : Run σ κ π α) := fun _ _ ended => by cases ended

/-- What may run into a fault alone raises no error. -/
theorem answers_lift (r : Except Fault α) : Answers (lift (liftM r) : Run σ κ π α) := by
  intro w e ended
  cases r <;> cases ended

theorem answers_log (n : Note) : Answers (log n : Run σ κ π Unit) := by
  intro w e ended
  rcases fst_log n w with logged | ⟨_, f, _, refused⟩
  · cases logged.symm.trans ended
  · cases refused.symm.trans ended

theorem answers_settle (x : Run σ κ π α) : Answers (settle x) := settle_not_refused x

theorem answers_binding (given : List (String × Value)) {x : Run σ κ π α} (hx : Answers x) :
    Answers (binding given x) :=
  fun _ e => hx _ e

/-- A run of two parts does not fail in a way in which neither of them does. The second part starts in a world to which
the first one led, with what it answered. -/
theorem fst_bind_ne {x : Run σ κ π α} {f : α → Run σ κ π β} {w : World σ κ π} {failure : Failure}
    (hx : (x.run w).1 ≠ .error failure) (hf : ∀ a v, x.run w = (.ok a, v) → ((f a).run v).1 ≠ .error failure) :
    ((x >>= f).run w).1 ≠ .error failure := by
  rcases ended : x.run w with ⟨r, v⟩
  rw [ended] at hx
  cases r with
  | ok a =>
    rw [run_bind_ok ended]
    exact hf a v ended
  | error raised =>
    rw [run_bind_error ended]
    intro raises
    cases raises
    exact hx rfl

theorem answers_bind {x : Run σ κ π α} {f : α → Run σ κ π β} (hx : Answers x) (hf : ∀ a, Answers (f a)) :
    Answers (x >>= f) :=
  fun w e => fst_bind_ne (hx w e) fun a v _ => hf a v e

theorem answers_logAll (ns : List Note) : Answers (logAll ns : Run σ κ π Unit) := by
  induction ns with
  | nil => exact answers_pure ()
  | cons n ns ih => exact answers_bind (answers_log n) fun _ => ih

end Run

/-! ## Statements -/

namespace Dispatcher

theorem answers_classify (dp : Dispatcher) (e : Error) : Run.Answers (dp.classify e : Run σ κ π _) := by
  refine Run.answers_bind (Run.answers_lift _) fun warns => ?_
  cases warns with
  | true => exact Run.answers_bind (Run.answers_log _) fun _ => Run.answers_pure _
  | false => exact Run.answers_pure _

theorem answers_answer (dp : Dispatcher) (identity schemaName : Value) (st : Statement) (r : Except Failure Rows) :
    Run.Answers (dp.answer identity schemaName st r : Run σ κ π _) := by
  unfold answer
  split
  · exact Run.answers_pure _
  · exact Run.answers_broken _
  · split
    · exact Run.answers_bind (Run.answers_log _) fun _ => answers_classify dp _
    · exact Run.answers_pure _

/-- Wherever it was raised, an error of running a statement is answered. -/
theorem answers_execute (dp : Dispatcher) (identity schemaName : Value) (st : Statement) :
    Run.Answers (dp.execute identity st schemaName : Run σ κ π _) := by
  refine Run.answers_binding _ (Run.answers_bind (Run.answers_settle _) fun r => ?_)
  cases r with
  | error e => exact Run.answers_pure _
  | ok entry =>
    have tried : Run.Answers (Run.attempt (withConnection identity entry (dp.runOn st)) : Run σ κ π _) :=
      fun _ _ ended => by cases ended
    exact Run.answers_bind tried fun r => answers_answer dp identity schemaName st r

end Dispatcher

/-! ## Operations -/

namespace Gateway

variable {g : Gateway} {identity schemaName : Value}

theorem answers_answered (x : Run σ κ π α) : Run.Answers (answered identity schemaName x) :=
  answered_not_refused identity schemaName x

theorem answers_answering {f : α → Answer} {x : Run σ κ π (Outcome Error α)} (hx : Run.Answers x) :
    Run.Answers (answering f x) :=
  Run.answers_bind hx fun _ => Run.answers_pure _

theorem answers_mapped {f : α → Except Fault β} {x : Run σ κ π (Outcome Error α)} (hx : Run.Answers x) :
    Run.Answers (mapped f x) :=
  Run.answers_bind hx fun _ => Run.answers_lift _

/-- A schema is registered under a known identity without an error. -/
theorem addSchema_not_refused {w : World σ κ π} (known : w.Knows identity) (schemaName : Value) (s : Registered)
    (e : Error) : ((Registry.addSchema identity schemaName s).run w).1 ≠ .error (.refused e) := by
  obtain ⟨entry, found⟩ := known
  have resolved : (Registry.resolved identity).run w = (.ok entry, w) := by rw [Registry.run_resolved, found]
  rw [Registry.addSchema, Run.run_bind_ok resolved]
  split
  · exact fun ended => by cases ended
  · exact Run.answers_broken _ w e

/-- What was made was made for a known identity, and the identity is known when the statement has run. -/
theorem answers_define (d : Description) : Run.Answers (g.define identity schemaName d : Run σ κ π _) := by
  intro w e
  rw [run_define]
  split
  · next made making =>
    have known : w.Knows identity := knows_of_resolve_bind making
    refine Run.fst_bind_ne (Dispatcher.answers_execute _ _ _ _ w e) fun r v executed => ?_
    have serves := Dispatcher.serves_execute g.dispatcher identity schemaName made.2 w
    rw [executed] at serves
    cases r with
    | error e' => exact Run.answers_pure _ v e
    | ok rows =>
      have added := addSchema_not_refused (serves.knows known) schemaName (.schema made.1) e
      exact Run.fst_bind_ne added fun _ u _ => Run.answers_pure _ u e
  · exact fun ended => by cases ended
  · exact fun ended => by cases ended

theorem answers_describe : Run.Answers (g.describe identity schemaName : Run σ κ π _) := by
  refine Run.answers_bind (answers_answered _) fun named => ?_
  cases named with
  | error e => exact Run.answers_pure _
  | ok table =>
    refine Run.answers_bind (Run.answers_lift _) fun st =>
      Run.answers_bind (Dispatcher.answers_execute _ _ _ _) fun r => ?_
    cases r with
    | error e => exact Run.answers_pure _
    | ok rows =>
      have read : Run.Answers (readCatalog table rows : Run σ κ π _) :=
        Run.answers_bind (Run.answers_logAll _) fun _ => Run.answers_lift _
      exact Run.answers_bind read fun _ => Run.answers_pure _

theorem answers_dropEach (last : Value) (relations : List Value) :
    Run.Answers (g.dropEach identity schemaName last relations : Run σ κ π _) := by
  induction relations with
  | nil => exact Run.answers_bind (Run.answers_lift _) fun st => Dispatcher.answers_execute _ _ _ _
  | cons relation relations ih =>
    refine Run.answers_bind (Run.answers_lift _) fun st =>
      Run.answers_bind (Dispatcher.answers_execute _ _ _ _) fun r => ?_
    cases r with
    | ok rows => exact ih
    | error e =>
      dsimp only
      split
      · exact Run.answers_bind (Run.answers_log _) fun _ => ih
      · exact Run.answers_pure _

theorem answers_drop (relations : Value) : Run.Answers (g.drop identity schemaName relations : Run σ κ π _) := by
  refine Run.answers_bind (answers_answered _) fun named => ?_
  cases named with
  | error e => exact Run.answers_pure _
  | ok table => exact Run.answers_bind (Run.answers_lift _) fun rs => answers_dropEach table rs

theorem answers_query (sql : String) (params : Value) :
    Run.Answers (g.query identity schemaName sql params : Run σ κ π _) :=
  Run.answers_bind (Run.answers_lift _) fun _ => Dispatcher.answers_execute _ _ _ _

theorem answers_request (q : Request) : Run.Answers (g.request identity schemaName q : Run σ κ π _) := by
  refine Run.answers_bind (answers_answered _) fun built => ?_
  cases built with
  | error e => exact Run.answers_pure _
  | ok st => exact Dispatcher.answers_execute _ _ _ _

/-- Every operation answers its errors. -/
theorem answers_perform (o : Operation) : Run.Answers (g.perform identity schemaName o : Run σ κ π _) := by
  cases o with
  | define d => exact answers_answering (answers_define d)
  | describe => exact answers_answering answers_describe
  | drop relations => exact answers_answering (answers_drop relations)
  | query sql params => exact answers_answering (answers_query sql params)
  | request q =>
    cases q with
    | findOne | count | create => exact answers_answering (answers_mapped (answers_request _))
    | find | update | destroy | truncate => exact answers_answering (answers_request _)

end Gateway

/-- **A service replies.** Whatever is asked in whatever world, however the driver behaves, there is one reply, with the
value or with the error; otherwise a fault was raised and leaves the service. No error ever does. -/
theorem Service.settled (g : Gateway) (s : Service) (w : World σ κ π) :
    (∃ r, ((s.run g).run w).1 = .ok r) ∨ ∃ f, ((s.run g).run w).1 = .error (.broken f) := by
  have answers : Run.Answers (s.run g : Run σ κ π _) := by
    cases s with
    | register config schemas => exact Run.answers_bind (Run.answers_settle _) fun _ => Run.answers_pure _
    | teardown identity => exact Run.answers_bind (Run.answers_settle _) fun _ => Run.answers_pure _
    | operate identity schemaName o => exact Run.answers_bind (Gateway.answers_perform o) fun _ => Run.answers_pure _
  cases ended : ((s.run g).run w).1 with
  | ok r => exact Or.inl ⟨r, rfl⟩
  | error f =>
    cases f with
    | refused e => exact absurd ended (answers w e)
    | broken f => exact Or.inr ⟨f, rfl⟩

end TableGateway
