import TableGateway.Proofs.Pairs
import TableGateway.Proofs.Services

/-!
# Services side by side

Two gateways that differ at most in who listens serve alike in alike worlds, as long as they run statements alike. One
service after the other is done, however each of them ends (`serve`).

- **`pairs_perform`**: an operation pairs where its statements do.
- **`pairs_service`**: so does every service.
- **`serve_alike`**: all services of a run end the same and leave alike worlds behind.
-/

namespace TableGateway

variable {σ κ π σ' κ' π' α β : Type}

/-- The gateway with another listener, or with none. -/
def Gateway.withListener (g : Gateway) (l : Option Listener) : Gateway :=
  { g with dispatcher := g.dispatcher.withListener l }

/-- Does what is asked in turn: how each service ended, and the world that it left. -/
def Gateway.serve (g : Gateway) :
    List Service → World σ κ π → List (Except Failure (Outcome Error Reply) × World σ κ π)
  | [], _ => []
  | s :: later, w => (s.run g).run w :: g.serve later ((s.run g).run w).2

namespace Likeness

variable {L : Likeness σ κ π σ' κ' π'} {identity schemaName : Value}

/-! ## Building and answering -/

/-- What is built from the registry is answered the same. -/
theorem pairs_answered {x : Run σ κ π α} {y : Run σ' κ' π' α} (hx : L.Pairs Eq x y) :
    L.Pairs Eq (Gateway.answered identity schemaName x) (Gateway.answered identity schemaName y) := by
  refine pairs_bind_same (pairs_settle_same hx) fun r => ?_
  cases r <;> exact pairs_pure rfl

theorem pairs_mapped {f : α → Except Fault β} {x : Run σ κ π (Outcome Error α)} {y : Run σ' κ' π' (Outcome Error α)}
    (hx : L.Pairs Eq x y) : L.Pairs Eq (Gateway.mapped f x) (Gateway.mapped f y) :=
  pairs_bind_same hx fun _ => pairs_lift_same _

theorem pairs_answering {f : α → Answer} {x : Run σ κ π (Outcome Error α)} {y : Run σ' κ' π' (Outcome Error α)}
    (hx : L.Pairs Eq x y) : L.Pairs Eq (Gateway.answering f x) (Gateway.answering f y) :=
  pairs_bind_same hx fun _ => pairs_pure rfl

theorem pairs_registered (lawful : L.Lawful) (identity schemaName : Value) :
    L.Pairs Eq (Gateway.registered identity schemaName) (Gateway.registered identity schemaName) :=
  pairs_bind (pairs_resolved identity) fun _ _ alike => pairs_lift (alike.schema lawful schemaName ▸ .refl _)

theorem pairs_tableName :
    L.Pairs Eq (Gateway.tableName identity schemaName) (Gateway.tableName identity schemaName) := by
  refine pairs_bind (pairs_resolved identity) fun e e' alike => ?_
  rw [alike.schemas]
  refine pairs_bind_same (pairs_lift_same _) fun found => ?_
  cases found with
  | none => exact pairs_pure rfl
  | some s => exact pairs_bind_same (pairs_lift_same _) fun _ => pairs_pure rfl

theorem pairs_readCatalog (lawful : L.Lawful) (table : Value) (rows : Dispatcher.Rows) :
    L.Pairs Eq (Gateway.readCatalog table rows) (Gateway.readCatalog table rows) :=
  pairs_bind_same (pairs_logAll lawful _) fun _ => pairs_lift_same _

/-! ## Operations -/

section Operations

variable {g : Gateway} {l : Option Listener}

/-- The two gateways run alike every statement whose scope may be bound. -/
def Executes (L : Likeness σ κ π σ' κ' π') (g : Gateway) (l : Option Listener) : Prop :=
  ∀ {identity schemaName}, L.Names identity schemaName → ∀ st, L.Pairs Eq (g.dispatcher.execute identity st schemaName)
    ((g.withListener l).dispatcher.execute identity st schemaName)

theorem pairs_request (lawful : L.Lawful) (runs : L.Executes g l) (names : L.Names identity schemaName) (r : Request) :
    L.Pairs Eq (g.request identity schemaName r) ((g.withListener l).request identity schemaName r) := by
  have built := pairs_bind_same (pairs_registered lawful identity schemaName) fun s =>
    pairs_lift_same (r.build g.dialect s)
  refine pairs_bind_same (pairs_answered built) fun made => ?_
  cases made with
  | error e => exact pairs_pure rfl
  | ok st => exact runs names st

theorem pairs_define (runs : L.Executes g l) (names : L.Names identity schemaName) (d : Description) :
    L.Pairs Eq (g.define identity schemaName d) ((g.withListener l).define identity schemaName d) := by
  have built := pairs_bind (pairs_resolved (L := L) identity) fun _ _ _ =>
    pairs_bind_same (pairs_lift_same (Gateway.schemaMeant schemaName d)) fun s =>
      pairs_bind_same (pairs_lift_same (Schema.createTable g.dialect g.keyType s.table s)) fun st =>
        pairs_pure (Q := Eq) (a := (s, st)) rfl
  refine pairs_bind_same (pairs_answered built) fun made => ?_
  cases made with
  | error e => exact pairs_pure rfl
  | ok made =>
    obtain ⟨s, st⟩ := made
    refine pairs_bind_same (runs names st) fun r => ?_
    cases r with
    | error e => exact pairs_pure rfl
    | ok rows => exact pairs_bind_same (pairs_addSchema identity schemaName (.schema s)) fun _ => pairs_pure rfl

theorem pairs_describe (lawful : L.Lawful) (runs : L.Executes g l) (names : L.Names identity schemaName) :
    L.Pairs Eq (g.describe identity schemaName) ((g.withListener l).describe identity schemaName) := by
  refine pairs_bind_same (pairs_answered pairs_tableName) fun named => ?_
  cases named with
  | error e => exact pairs_pure rfl
  | ok table =>
    refine pairs_bind_same (pairs_lift_same _) fun st => pairs_bind_same (runs names st) fun r => ?_
    cases r with
    | error e => exact pairs_pure rfl
    | ok rows => exact pairs_bind_same (pairs_readCatalog lawful table rows) fun _ => pairs_pure rfl

theorem pairs_dropEach (lawful : L.Lawful) (runs : L.Executes g l) (names : L.Names identity schemaName)
    (last : Value) (relations : List Value) :
    L.Pairs Eq (g.dropEach identity schemaName last relations)
      ((g.withListener l).dropEach identity schemaName last relations) := by
  induction relations with
  | nil => exact pairs_bind_same (pairs_lift_same _) fun st => runs names st
  | cons relation relations ih =>
    refine pairs_bind_same (pairs_lift_same _) fun st => pairs_bind_same (runs names st) fun r => ?_
    cases r with
    | ok rows => exact ih
    | error e =>
      dsimp only
      cases e.isDriver && e.isNotFound with
      | true => exact pairs_bind_same (pairs_log lawful _) fun _ => ih
      | false => exact pairs_pure rfl

theorem pairs_drop (lawful : L.Lawful) (runs : L.Executes g l) (names : L.Names identity schemaName)
    (relations : Value) :
    L.Pairs Eq (g.drop identity schemaName relations) ((g.withListener l).drop identity schemaName relations) := by
  refine pairs_bind_same (pairs_answered pairs_tableName) fun named => ?_
  cases named with
  | error e => exact pairs_pure rfl
  | ok table => exact pairs_bind_same (pairs_lift_same _) fun rs => pairs_dropEach lawful runs names table rs

theorem pairs_perform (lawful : L.Lawful) (runs : L.Executes g l) (names : L.Names identity schemaName)
    (o : Operation) :
    L.Pairs Eq (g.perform identity schemaName o) ((g.withListener l).perform identity schemaName o) := by
  cases o with
  | define d => exact pairs_answering (pairs_define runs names d)
  | describe => exact pairs_answering (pairs_describe lawful runs names)
  | drop relations => exact pairs_answering (pairs_drop lawful runs names relations)
  | query sql params =>
    exact pairs_answering (pairs_bind_same (pairs_lift_same _) fun st => runs names st)
  | request r =>
    cases r with
    | findOne | count | create => exact pairs_answering (pairs_mapped (pairs_request lawful runs names _))
    | find | update | destroy | truncate => exact pairs_answering (pairs_request lawful runs names _)

end Operations

/-! ## Services -/

/-- The same is asked, of configurations that are alike. -/
inductive Asked (L : Likeness σ κ π σ' κ' π') : Service → Service → Prop
  | register {c c' : Registry.ConfigGiven} (given : L.Given c c') (schemas : Description) :
      Asked L (.register c schemas) (.register c' schemas)
  | teardown (identity : Value) : Asked L (.teardown identity) (.teardown identity)
  | operate {identity schemaName : Value} (names : L.Names identity schemaName) (o : Operation) :
      Asked L (.operate identity schemaName o) (.operate identity schemaName o)

section Services

variable {g : Gateway} {l : Option Listener}

theorem pairs_service (lawful : L.Lawful) (runs : L.Executes g l) {s s' : Service} (asked : L.Asked s s') :
    L.Pairs Eq (s.run g) (s'.run (g.withListener l)) := by
  cases asked with
  | register given schemas =>
    exact pairs_bind_same (pairs_settle_same (pairs_register lawful given schemas)) fun _ => pairs_pure rfl
  | teardown identity =>
    exact pairs_bind_same (pairs_settle_same (pairs_teardown lawful identity)) fun _ => pairs_pure rfl
  | operate names o => exact pairs_bind_same (pairs_perform lawful runs names o) fun _ => pairs_pure rfl

/-- All services end the same, and each leaves alike worlds behind. -/
theorem serve_alike (lawful : L.Lawful) (runs : L.Executes g l) {ss ss' : List Service}
    (asked : List.Forall₂ L.Asked ss ss') {w : World σ κ π} {v : World σ' κ' π'} (alike : L.Worlds w v) :
    List.Forall₂ (fun a b => b.1 = a.1 ∧ L.Worlds a.2 b.2) (g.serve ss w) ((g.withListener l).serve ss' v) := by
  induction asked generalizing w v with
  | nil => exact .nil
  | cons first _ ih =>
    obtain ⟨ends, after⟩ := pairs_service lawful runs first w v alike
    exact .cons ⟨ends.eq, after⟩ (ih after)

end Services

end Likeness

end TableGateway
