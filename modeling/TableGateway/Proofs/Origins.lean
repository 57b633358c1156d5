import TableGateway.Proofs.Accounting
import TableGateway.Proofs.Execution
import TableGateway.Proofs.Refusals

/-!
# Where errors come from

An operation that answers with an error either has been refused while it looked up and built what it needs, and then
the world is as it was; or a statement of the operation was answered with the error, and nothing was done after it. The
statements of an operation are told by `Runs`; an operation that looks its identity up does so before the first of them,
and a statement never takes an identity away (`Knows`).

- **`exists_of_execute_error`**: a statement is answered with an error when the identity is unknown, or when the run
  with its connection was refused.
- **`origin`**: where the error of an operation comes from.
-/

namespace TableGateway

variable {σ κ π α β : Type}

/-! ## Runs that only look -/

namespace Run

/-- The run leaves the world exactly as it is. -/
def Still (x : Run σ κ π α) : Prop := ∀ w, (x.run w).2 = w

theorem still_pure (a : α) : Still (pure a : Run σ κ π α) := fun _ => rfl

theorem still_lift (r : Except Failure α) : Still (lift r : Run σ κ π α) := fun _ => rfl

theorem still_bind {x : Run σ κ π α} {f : α → Run σ κ π β} (hx : Still x) (hf : ∀ a, Still (f a)) :
    Still (x >>= f) := by
  intro w
  have before := hx w
  rw [run_bind]
  rcases ended : x.run w with ⟨r, v⟩
  rw [ended] at before
  obtain rfl : v = w := before
  cases r with
  | ok a => exact hf a v
  | error f => rfl

theorem still_settle {x : Run σ κ π α} (still : Still x) : Still (settle x) := by
  intro w
  rw [snd_settle]
  exact still w

/-- What starts with a result that needs no world ends well only when the result is good. -/
theorem exists_of_run_lift_bind_ok {r : Except Failure α} {f : α → Run σ κ π β} {w u : World σ κ π} {b : β}
    (h : (lift r >>= f).run w = (.ok b, u)) : ∃ a, r = .ok a ∧ (f a).run w = (.ok b, u) := by
  obtain ⟨a, v, read, rest⟩ := exists_of_run_bind_ok h
  cases read
  exact ⟨a, rfl, rest⟩

end Run

theorem Registry.still_resolved (identity : Value) : Run.Still (resolved identity : Run σ κ π _) := fun _ => rfl

namespace Gateway

variable {identity schemaName : Value}

theorem still_registered : Run.Still (registered identity schemaName : Run σ κ π _) :=
  Run.still_bind (Registry.still_resolved identity) fun _ => Run.still_lift _

theorem still_tableName : Run.Still (tableName identity schemaName : Run σ κ π _) := by
  refine Run.still_bind (Registry.still_resolved identity) fun e => Run.still_bind (Run.still_lift _) fun found => ?_
  cases found with
  | none => exact Run.still_pure _
  | some s => exact Run.still_bind (Run.still_lift _) fun _ => Run.still_pure _

theorem still_answered {x : Run σ κ π α} (still : Run.Still x) : Run.Still (answered identity schemaName x) := by
  refine Run.still_bind (Run.still_settle still) fun r => ?_
  cases r <;> exact Run.still_pure _

/-- A look that may be refused is followed by what goes on with its answer; a fault ends both. -/
theorem run_answered_bind {x : Run σ κ π α} (still : Run.Still x)
    (next : Outcome Error α → Run σ κ π (Outcome Error β)) (w : World σ κ π) :
    (answered identity schemaName x >>= next).run w = match (x.run w).1 with
      | .ok a => (next (.ok a)).run w
      | .error (.refused e) => (next (.error (e.within identity schemaName))).run w
      | .error (.broken f) => (.error (.broken f), w) := by
  have here := still w
  rcases ended : x.run w with ⟨r, v⟩
  rw [ended] at here
  obtain rfl : v = w := here
  cases r with
  | ok a => exact Run.run_bind_ok (Run.run_bind_ok (Run.run_settle_ok ended))
  | error f =>
    cases f with
    | refused e => exact Run.run_bind_ok (Run.run_bind_ok (Run.run_settle_refused ended))
    | broken f => exact Run.run_bind_error (Run.run_bind_error (Run.run_settle_broken ended))

end Gateway

/-! ## Identities stay known -/

/-- Something is registered under the identity. -/
def World.Knows (w : World σ κ π) (identity : Value) : Prop := ∃ e, w.registry.resolve identity = .ok e

/-- The second world works with the driver of the first, and knows the identity if the first does. -/
structure World.Serves (identity : Value) (w v : World σ κ π) : Prop where
  driver : v.registry.driver = w.registry.driver
  knows : w.Knows identity → v.Knows identity

namespace World.Serves

variable {identity : Value}

theorem of_registry {w v : World σ κ π} (same : v.registry = w.registry) : w.Serves identity v :=
  ⟨by rw [same], fun ⟨e, found⟩ => ⟨e, by rw [same]; exact found⟩⟩

theorem follows : Follows (World.Serves (σ := σ) (κ := κ) (π := π) identity) :=
  ⟨fun a => of_registry a.registry, fun h g => ⟨g.driver.trans h.driver, fun k => g.knows (h.knows k)⟩⟩

/-- An entry may be replaced by another one. -/
theorem update (w : World σ κ π) (e : Entry κ π) :
    w.Serves identity { w with registry := w.registry.update identity e } where
  driver := rfl
  knows := by
    rintro ⟨old, found⟩
    have own := Keyed.same_self_of_lookup (Registry.lookup_of_resolve found)
    refine ⟨e, Registry.resolve_of_lookup ?_⟩
    rw [Registry.update, Keyed.lookup_put, if_pos own]

end World.Serves

theorem Dispatcher.serves_execute (dp : Dispatcher) (identity schemaName : Value) (st : Statement) :
    Run.Leads (World.Serves identity) (dp.execute identity st schemaName : Run σ κ π _) := by
  have calls : FollowsCalls (World.Serves (σ := σ) (κ := κ) (π := π) identity) :=
    .of_registry World.Serves.of_registry
  refine leads_execute World.Serves.follows fun w e _ => leads_withConnection World.Serves.follows calls fun _ => ?_
  exact leads_openKept World.Serves.follows (fun _ _ => .of_registry rfl) (fun v c => .update v _) w

/-! ## How a statement is answered with an error -/

namespace Dispatcher

variable {dp : Dispatcher} {identity schemaName : Value} {st : Statement} {w v : World σ κ π} {e : Error}

/-- For an unknown identity nothing is done. -/
theorem run_execute_unknown (unknown : w.registry.resolve identity = .error (.refused e)) :
    ∃ b, (dp.execute identity st schemaName).run w = (.ok (.error e), { w with bound := b }) := by
  have unresolved : (Registry.resolved identity).run (w.serving identity schemaName) =
      (.error (.refused e), w.serving identity schemaName) := by
    rw [Registry.run_resolved, World.serving, unknown]
  refine ⟨(w.serving identity schemaName).bound.leave [("identity", identity), ("schema", schemaName)], ?_⟩
  rw [execute, Run.run_binding (Run.run_bind_ok (Run.run_settle_refused unresolved))]
  rfl

theorem eq_of_classify_error {raised : Error} (h : (dp.classify raised).run w = (.ok (.error e), v)) : e = raised := by
  unfold classify at h
  rw [Run.run_bind, Run.run_lift] at h
  cases sorted : raised.isWarning dp.warningLead with
  | error f => rw [sorted] at h; cases h
  | ok warns =>
    rw [sorted] at h
    cases warns with
    | true =>
      obtain ⟨_, u, _, ended⟩ := Run.exists_of_run_bind_ok h
      cases ended
    | false =>
      cases h
      rfl

/-- The error that a statement is answered with when the run with its connection was refused. -/
def answerFor (identity schemaName : Value) (st : Statement) (raised : Error) : Error :=
  if raised.isDriver then (raised.within identity schemaName).executing st.sql else raised.within identity schemaName

theorem kind_answerFor (raised : Error) : (answerFor identity schemaName st raised).kind = raised.kind := by
  unfold answerFor
  split <;> rfl

theorem exists_of_answer_error {r : Except Failure Rows}
    (h : (dp.answer identity schemaName st r).run w = (.ok (.error e), v)) :
    ∃ raised, r = .error (.refused raised) ∧ e = answerFor identity schemaName st raised := by
  cases r with
  | ok rows => cases h
  | error f =>
    cases f with
    | broken f => cases h
    | refused raised =>
      refine ⟨raised, rfl, ?_⟩
      rw [answer] at h
      unfold answerFor
      split at h
      · next driver =>
        obtain ⟨_, u, _, classified⟩ := Run.exists_of_run_bind_ok h
        rw [if_pos driver]
        exact eq_of_classify_error classified
      · next other =>
        rw [if_neg other]
        cases h
        rfl

/-- A statement is answered with an error when the identity is unknown, and then nothing is done, or when the run with
its connection was refused. -/
theorem exists_of_execute_error (h : (dp.execute identity st schemaName).run w = (.ok (.error e), v)) :
    (w.registry.resolve identity = .error (.refused e) ∧ ∃ b, v = { w with bound := b }) ∨
    ∃ entry raised u, w.registry.resolve identity = .ok entry ∧
      (withConnection identity entry (dp.runOn st)).run (w.serving identity schemaName) =
        (.error (.refused raised), u) ∧ e = answerFor identity schemaName st raised := by
  cases found : w.registry.resolve identity with
  | error f =>
    cases f with
    | refused missing =>
      obtain ⟨b, ended⟩ : ∃ b, (dp.execute identity st schemaName).run w =
          (.ok (.error missing), { w with bound := b }) := run_execute_unknown found
      rw [ended] at h
      cases h
      exact Or.inl ⟨rfl, b, rfl⟩
    | broken f =>
      have unresolved : (Registry.resolved identity).run (w.serving identity schemaName) =
          (.error (.broken f), w.serving identity schemaName) := by
        rw [Registry.run_resolved, World.serving, found]
      rw [execute, Run.run_binding (Run.run_bind_error (Run.run_settle_broken unresolved))] at h
      cases h
  | ok entry =>
    rcases ended : (withConnection identity entry (dp.runOn st)).run (w.serving identity schemaName) with ⟨r, u⟩
    rw [run_execute found ended] at h
    obtain ⟨answered, _⟩ := Prod.mk.inj h
    obtain ⟨raised, rfl, located⟩ : ∃ raised, r = .error (.refused raised) ∧
        e = answerFor identity schemaName st raised := exists_of_answer_error (Prod.ext answered rfl)
    exact Or.inr ⟨entry, raised, u, rfl, ended, located⟩

end Dispatcher

/-! ## What an operation runs, and what is refused before -/

namespace Operation

variable {g : Gateway} {r : Registry σ κ π} {identity schemaName : Value}

/-- The schema that a definition means and the statement that creates its table, for a registered connection. -/
def making (g : Gateway) (r : Registry σ κ π) (identity schemaName : Value) (d : Description) :
    Except Failure (Schema × Statement) := do
  let _ ← r.resolve identity
  let s ← Gateway.schemaMeant schemaName d
  let st ← Schema.createTable g.dialect g.keyType s.table s
  return (s, st)

theorem creating_eq (d : Description) :
    creating g r identity schemaName d = (making g r identity schemaName d).map Prod.snd := by
  unfold creating making
  cases r.resolve identity with
  | error f => rfl
  | ok entry =>
    cases Gateway.schemaMeant schemaName d with
    | error f => rfl
    | ok s =>
      show Schema.createTable g.dialect g.keyType s.table s =
        (Schema.createTable g.dialect g.keyType s.table s >>= fun st => .ok (s, st)).map Prod.snd
      cases Schema.createTable g.dialect g.keyType s.table s <;> rfl

theorem of_making {d : Description} {s : Schema} {st : Statement} (h : making g r identity schemaName d = .ok (s, st)) :
    ∃ e, r.resolve identity = .ok e ∧ Gateway.schemaMeant schemaName d = .ok s ∧
      Schema.createTable g.dialect g.keyType s.table s = .ok st := by
  obtain ⟨e, found, h⟩ := bind_eq_ok h
  obtain ⟨s, meant, h⟩ := bind_eq_ok h
  obtain ⟨st, created, made⟩ := bind_eq_ok h
  cases made
  exact ⟨e, found, meant, created⟩

/-- The error with which the operation is refused before any statement of it runs. -/
def Refuses (g : Gateway) (r : Registry σ κ π) (identity schemaName : Value) (raised : Error) : Operation → Prop
  | .define d => creating g r identity schemaName d = .error (.refused raised)
  | .describe | .drop _ => tableOf r identity schemaName = .error (.refused raised)
  | .query .. => False
  | .request q => requesting g r identity schemaName q = .error (.refused raised)

/-- The statements that an operation runs: its single one, or one for every table to drop. -/
inductive Runs (g : Gateway) (r : Registry σ κ π) (identity schemaName : Value) : Operation → Statement → Prop
  | single {o : Operation} {st : Statement} (built : o.statement? g r identity schemaName = some (.ok st)) :
    Runs g r identity schemaName o st
  | relation {relations relation : Value} {rs : List Value} {st : Statement} (given : relations.members? = .ok rs)
    (one : relation ∈ rs) (built : Query.drop g.dialect relation = .ok st) :
    Runs g r identity schemaName (.drop relations) st
  | last {relations table : Value} {st : Statement} (named : tableOf r identity schemaName = .ok table)
    (built : Query.drop g.dialect table = .ok st) : Runs g r identity schemaName (.drop relations) st

end Operation

/-- Where an error comes from with which an operation in the world `w` was answered, so that it ended in `v`. -/
inductive Origin (g : Gateway) (identity schemaName : Value) (o : Operation) (w : World σ κ π) (e : Error)
    (v : World σ κ π) : Prop
  | refused {raised : Error} (refused : o.Refuses g w.registry identity schemaName raised)
    (located : e = raised.within identity schemaName) (still : v = w)
  /-- Only a statement of the caller runs without a look at the identity. -/
  | ran {st : Statement} {u : World σ κ π} (runs : o.Runs g w.registry identity schemaName st)
    (driver : u.registry.driver = w.registry.driver)
    (known : w.Knows identity ∧ u.Knows identity ∨ u = w ∧ ∃ sql params, o = .query sql params)
    (answered : (g.dispatcher.execute identity st schemaName).run u = (.ok (.error e), v))

namespace Gateway

variable {g : Gateway} {identity schemaName : Value} {w v : World σ κ π} {e : Error}

/-- What follows a good answer does not turn it into an error. -/
theorem run_of_bind_error {x : Run σ κ π (Outcome Error α)} {next : Outcome Error α → Run σ κ π (Outcome Error β)}
    (h : (x >>= next).run w = (.ok (.error e), v)) (passes : ∀ e, next (.error e) = pure (.error e))
    (goes : ∀ a u e v, (next (.ok a)).run u ≠ (.ok (.error e), v)) : x.run w = (.ok (.error e), v) := by
  obtain ⟨r, u, first, rest⟩ := Run.exists_of_run_bind_ok h
  cases r with
  | ok a => exact absurd rest (goes a u e v)
  | error e' =>
    rw [passes] at rest
    cases rest
    exact first

theorem run_of_answering_error {f : α → Answer} {x : Run σ κ π (Outcome Error α)}
    (h : (answering f x).run w = (.ok (.error e), v)) : x.run w = (.ok (.error e), v) :=
  run_of_bind_error h (fun _ => rfl) fun _ _ _ _ ended => by cases ended

theorem run_of_mapped_error {f : α → Except Fault β} {x : Run σ κ π (Outcome Error α)}
    (h : (mapped f x).run w = (.ok (.error e), v)) : x.run w = (.ok (.error e), v) := by
  refine run_of_bind_error h (fun _ => rfl) fun a u e v ended => ?_
  rw [Run.run_lift, Outcome.map] at ended
  cases computed : f a <;> rw [computed] at ended <;> cases ended

theorem knows_of_resolve_bind {f : Entry κ π → Except Failure α} {a : α}
    (h : (w.registry.resolve identity >>= f) = .ok a) : w.Knows identity := by
  obtain ⟨entry, found, _⟩ := bind_eq_ok h
  exact ⟨entry, found⟩

/-- Creates the table that was made and registers its schema once the table is there. -/
def defineMade (g : Gateway) (identity schemaName : Value) (made : Schema × Statement) :
    Run σ κ π (Outcome Error Dispatcher.Rows) := do
  match ← g.dispatcher.execute identity made.2 schemaName with
  | .ok rows =>
    Registry.addSchema identity schemaName (.schema made.1)
    return .ok rows
  | .error e => return .error e

/-- Makes what a definition needs. -/
def make (g : Gateway) (identity schemaName : Value) (d : Description) : Run σ κ π (Schema × Statement) := do
  let _ ← Registry.resolved identity
  let s ← Run.lift (schemaMeant schemaName d)
  let st ← Run.lift (Schema.createTable g.dialect g.keyType s.table s)
  return (s, st)

theorem still_make (d : Description) : Run.Still (g.make identity schemaName d : Run σ κ π _) :=
  Run.still_bind (Registry.still_resolved identity) fun _ => Run.still_bind (Run.still_lift _) fun _ =>
    Run.still_bind (Run.still_lift _) fun _ => Run.still_pure _

theorem fst_make (d : Description) :
    ((g.make identity schemaName d).run w).1 = Operation.making g w.registry identity schemaName d := by
  unfold make Operation.making
  simp only [Registry.fst_resolved_bind, Run.fst_lift_bind]
  rfl

/-- A definition makes what it needs and goes on with it, or ends as the making does. -/
theorem run_define (g : Gateway) (identity schemaName : Value) (d : Description) (w : World σ κ π) :
    (g.define identity schemaName d).run w = match Operation.making g w.registry identity schemaName d with
      | .ok made => (g.defineMade identity schemaName made).run w
      | .error (.refused e) => (.ok (.error (e.within identity schemaName)), w)
      | .error (.broken f) => (.error (.broken f), w) := by
  rw [← fst_make]
  refine (run_answered_bind (still_make d) _ w).trans ?_
  cases ((g.make identity schemaName d).run w).1 with
  | ok made => rfl
  | error f => cases f <;> rfl

theorem origin_define {d : Description} (h : (g.define identity schemaName d).run w = (.ok (.error e), v)) :
    Origin g identity schemaName (.define d) w e v := by
  have created : Operation.creating g w.registry identity schemaName d =
      (Operation.making g w.registry identity schemaName d).map Prod.snd := Operation.creating_eq d
  rw [run_define] at h
  split at h
  · next made making =>
    rw [making] at created
    have known : w.Knows identity := knows_of_resolve_bind making
    refine .ran (.single (congrArg some created)) rfl (Or.inl ⟨known, known⟩) ?_
    refine run_of_bind_error h (fun _ => rfl) fun rows u e v ended => ?_
    obtain ⟨_, _, _, ended⟩ := Run.exists_of_run_bind_ok ended
    cases ended
  · next raised making =>
    rw [making] at created
    cases h
    exact .refused created rfl rfl
  · cases h

theorem origin_describe (h : (g.describe identity schemaName).run w = (.ok (.error e), v)) :
    Origin g identity schemaName .describe w e v := by
  have named := fst_tableName identity schemaName w
  rw [describe, run_answered_bind still_tableName] at h
  split at h
  · next table ended =>
    rw [ended] at named
    obtain ⟨st, asked, h⟩ := Run.exists_of_run_lift_bind_ok h
    have described : Operation.describing g w.registry identity schemaName = .ok st := by
      unfold Operation.describing
      rw [← named]
      exact asked
    have known : w.Knows identity := knows_of_resolve_bind named.symm
    refine .ran (.single (congrArg some described)) rfl (Or.inl ⟨known, known⟩) ?_
    refine run_of_bind_error h (fun _ => rfl) fun rows u e v ended => ?_
    obtain ⟨_, _, _, ended⟩ := Run.exists_of_run_bind_ok ended
    cases ended
  · next raised ended =>
    rw [ended] at named
    cases h
    exact .refused named.symm rfl rfl
  · cases h

/-- Tables are dropped one after the other, and the error of one of the statements is the answer. -/
theorem exists_of_dropEach_error {last : Value} {relations : List Value} (known : w.Knows identity)
    (h : (g.dropEach identity schemaName last relations).run w = (.ok (.error e), v)) :
    ∃ table ∈ last :: relations, ∃ st u, Query.drop g.dialect table = .ok st ∧ w.Serves identity u ∧
      (g.dispatcher.execute identity st schemaName).run u = (.ok (.error e), v) := by
  induction relations generalizing w with
  | nil =>
    obtain ⟨st, built, h⟩ := Run.exists_of_run_lift_bind_ok h
    exact ⟨last, .head _, st, w, Failure.ok_of_lift_fault built, .of_registry rfl, h⟩
  | cons relation relations ih =>
    obtain ⟨st, built, h⟩ := Run.exists_of_run_lift_bind_ok h
    obtain ⟨r, u, executed, h⟩ := Run.exists_of_run_bind_ok h
    have serves := Dispatcher.serves_execute g.dispatcher identity schemaName st w
    rw [executed] at serves
    have later {u' : World σ κ π} (same : u.Alike u')
        (h : (g.dropEach identity schemaName last relations).run u' = (.ok (.error e), v)) :
        ∃ table ∈ last :: relation :: relations, ∃ st u, Query.drop g.dialect table = .ok st ∧ w.Serves identity u ∧
          (g.dispatcher.execute identity st schemaName).run u = (.ok (.error e), v) := by
      have serves := World.Serves.follows.trans serves (.of_registry same.registry)
      obtain ⟨table, among, st, u, built, after, answered⟩ := ih (serves.knows known) h
      refine ⟨table, ?_, st, u, built, World.Serves.follows.trans serves after, answered⟩
      rcases List.mem_cons.1 among with rfl | among
      · exact .head _
      · exact .tail _ (.tail _ among)
    cases r with
    | ok rows => exact later (.refl u) h
    | error raised =>
      dsimp only at h
      split at h
      · -- the table is not there, and the rest are dropped
        obtain ⟨_, u', logged, h⟩ := Run.exists_of_run_bind_ok h
        have same := Run.quiet_log (absentNote relation) u
        rw [logged] at same
        exact later same h
      · cases h
        exact ⟨relation, .tail _ (.head _), st, w, Failure.ok_of_lift_fault built, .of_registry rfl, executed⟩

theorem origin_drop {relations : Value} (h : (g.drop identity schemaName relations).run w = (.ok (.error e), v)) :
    Origin g identity schemaName (.drop relations) w e v := by
  have named := fst_tableName identity schemaName w
  rw [drop, run_answered_bind still_tableName] at h
  split at h
  · next table ended =>
    rw [ended] at named
    have known : w.Knows identity := knows_of_resolve_bind named.symm
    obtain ⟨rs, given, h⟩ := Run.exists_of_run_lift_bind_ok h
    obtain ⟨t, among, st, u, built, serves, answered⟩ := exists_of_dropEach_error known h
    refine .ran ?_ serves.driver (Or.inl ⟨known, serves.knows known⟩) answered
    rcases List.mem_cons.1 among with rfl | among
    · exact .last named.symm built
    · exact .relation (Failure.ok_of_lift_fault given) among built
  · next raised ended =>
    rw [ended] at named
    cases h
    exact .refused named.symm rfl rfl
  · cases h

theorem origin_query {sql : String} {params : Value}
    (h : (g.query identity schemaName sql params).run w = (.ok (.error e), v)) :
    Origin g identity schemaName (.query sql params) w e v := by
  obtain ⟨st, built, h⟩ := Run.exists_of_run_lift_bind_ok h
  exact .ran (.single (congrArg some built)) rfl (Or.inr ⟨rfl, sql, params, rfl⟩) h

theorem origin_request {q : Request} (h : (g.request identity schemaName q).run w = (.ok (.error e), v)) :
    Origin g identity schemaName (.request q) w e v := by
  have still : Run.Still (do
      let s ← registered identity schemaName
      Run.lift (q.build g.dialect s) : Run σ κ π _) :=
    Run.still_bind still_registered fun _ => Run.still_lift _
  have meant := fst_request g identity schemaName q w
  rw [request, run_answered_bind still] at h
  split at h
  · next st ended =>
    rw [ended] at meant
    have known : w.Knows identity := knows_of_resolve_bind meant.symm
    exact .ran (.single (congrArg some meant.symm)) rfl (Or.inl ⟨known, known⟩) h
  · next raised ended =>
    rw [ended] at meant
    cases h
    exact .refused meant.symm rfl rfl
  · cases h

/-- Where the error comes from that an operation answers with. -/
theorem origin {o : Operation} (h : (g.perform identity schemaName o).run w = (.ok (.error e), v)) :
    Origin g identity schemaName o w e v := by
  cases o with
  | define d => exact origin_define (run_of_answering_error h)
  | describe => exact origin_describe (run_of_answering_error h)
  | drop relations => exact origin_drop (run_of_answering_error h)
  | query sql params => exact origin_query (run_of_answering_error h)
  | request q =>
    cases q with
    | findOne | count | create => exact origin_request (run_of_mapped_error (run_of_answering_error h))
    | find | update | destroy | truncate => exact origin_request (run_of_answering_error h)

end Gateway

end TableGateway
