import TableGateway.Proofs.Accounting
import TableGateway.Proofs.RawConnections
import TableGateway.Proofs.Reported

/-!
# What becomes of what has run

A gateway over the driver of a client library never commits. What ran on a raw connection stays as long as nothing
rolls the connection back or closes it, and that is as long as an entry without a pool keeps it: a connection that was
taken out of a pool is rolled back when it is given back, before the call ends that ran the statement, and whatever
else ends the life of a connection closes it.

- **`Sheltered.keep`**, **`Sheltered.bare`**, **`Sheltered.remove`**, ...: what a change of the registry does to the
  connections that entries keep (`Sheltered`);
- **`shelters_call`**: whatever is asked, what has run is kept or taken back when the call ends;
- **`takesBack_operate`**: over a pool, it is taken back;
- **`OverseenSession.stays_iff`**: what has run stays exactly as long as an entry without a pool keeps its connection.
-/

namespace TableGateway

variable {τ ρ γ π α : Type}

/-- A world over the driver of a library that is overseen. -/
abbrev OverseenWorld (τ ρ : Type) := World (OverseenState τ ρ) (Handle (Numbered ρ)) Nat

/-- The number of the raw connection that an entry keeps. -/
def Entry.kept (e : Entry (Handle (Numbered ρ)) π) : List Nat :=
  match e.conn with
  | some (.raw conn _) => [conn.number]
  | _ => []

/-- If the entry keeps a connection, it is a raw one, and the entry has no pool. -/
def Entry.Own (e : Entry (Handle (Numbered ρ)) π) : Prop :=
  ∀ c, e.conn = some c → e.pool = none ∧ ∃ conn caught, c = .raw conn caught

/-- The raw connections that entries keep. -/
def Registry.kept {σ : Type} (r : Registry σ (Handle (Numbered ρ)) π) : List Nat :=
  r.entries.values.flatMap Entry.kept

theorem Entry.mem_kept {e : Entry (Handle (Numbered ρ)) π} {conn : Numbered ρ} {caught : Caught}
    (keeps : e.conn = some (.raw conn caught)) : conn.number ∈ e.kept := by
  rw [kept, keeps]
  exact .head _

theorem Entry.Own.noPool {e : Entry (Handle (Numbered ρ)) π} (own : e.Own) {n : Nat} (keeps : n ∈ e.kept) :
    e.pool = none := by
  cases held : e.conn with
  | none =>
    rw [Entry.kept, held] at keeps
    cases keeps
  | some c => exact (own c held).1

/-- An entry keeps one connection or none. -/
theorem Entry.kept_cases (e : Entry (Handle (Numbered ρ)) π) : e.kept = [] ∨ ∃ n, e.kept = [n] := by
  unfold kept
  split
  · exact .inr ⟨_, rfl⟩
  · exact .inl rfl

theorem Run.run_call_of {σ κ : Type} {d : Driver σ κ π} {w : World σ κ π} (driver : w.registry.driver = d)
    (f : Driver σ κ π → σ → Except Failure α × σ) :
    (call f).run w = ((f d w.engine).1, { w with engine := (f d w.engine).2 }) := by
  rw [← driver]
  rfl

/-- The driver leaves alone what the entries keep; all else that has run was taken back, but what is `pending`. -/
structure Sheltered (l : Client τ ρ γ) (available : Bool) (setup : PoolSetup) (pending : List Nat)
    (w : OverseenWorld τ ρ) : Prop where
  driver : w.registry.driver = l.overseen.driver available setup
  keys : w.registry.entries.Distinct
  own : ∀ e ∈ w.registry.entries.values, e.Own
  once : w.registry.kept.Nodup
  guarded : Guarded [] w.registry.kept pending w.engine

namespace Sheltered

variable {l : Client τ ρ γ} {available : Bool} {setup : PoolSetup} {pending pending' : List Nat}
  {w v : OverseenWorld τ ρ}

/-- Only the registry and the driver's state count. -/
theorem moved (h : Sheltered l available setup pending w) (registry : v.registry = w.registry)
    (guarded : Guarded [] w.registry.kept pending' v.engine) : Sheltered l available setup pending' v := by
  refine ⟨?_, ?_, ?_, ?_, ?_⟩ <;> rw [registry]
  · exact h.driver
  · exact h.keys
  · exact h.own
  · exact h.once
  · exact guarded

theorem alike (h : Sheltered l available setup pending w) (a : w.Alike v) : Sheltered l available setup pending v := by
  refine h.moved a.registry ?_
  rw [a.engine]
  exact h.guarded

theorem call (h : Sheltered l available setup pending w)
    {f : Driver (OverseenState τ ρ) (Handle (Numbered ρ)) Nat → OverseenState τ ρ →
      Except Failure α × OverseenState τ ρ}
    (guarded : Guarded [] w.registry.kept pending' (f (l.overseen.driver available setup) w.engine).2) :
    Sheltered l available setup pending' ((Run.call f).run w).2 := by
  rw [Run.run_call_of h.driver]
  exact h.moved rfl guarded

/-! ## Changes of the registry -/

/-- The same state under other entries. -/
theorem entries (h : Sheltered l available setup pending w) {entries : Keyed (Entry (Handle (Numbered ρ)) Nat)}
    {kept : List Nat} (keys : entries.Distinct) (own : ∀ e ∈ entries.values, e.Own)
    (keeps : (entries.values.flatMap Entry.kept).Perm kept) (once : kept.Nodup)
    (guarded : Guarded [] kept pending' w.engine) :
    Sheltered l available setup pending' { w with registry := { w.registry with entries := entries } } :=
  ⟨h.driver, keys, own, keeps.nodup_iff.2 once, guarded.perm keeps⟩

section Entries

variable {identity : Value} {e e' : Entry (Handle (Numbered ρ)) Nat}

/-- What an entry kept is pending once it is not kept any more. -/
theorem guarded_rest {rest : List Nat} (h : Sheltered l available setup [] w)
    (keeps : w.registry.kept.Perm (e.kept ++ rest)) : rest.Nodup ∧ Guarded [] rest e.kept w.engine := by
  have once := keeps.nodup_iff.1 h.once
  have guarded := h.guarded.perm keeps.symm
  obtain nothing | ⟨n, one⟩ := e.kept_cases
  · rw [nothing] at once guarded ⊢
    exact ⟨once, guarded⟩
  · rw [one] at once guarded ⊢
    obtain ⟨out, once⟩ := List.nodup_cons.1 once
    exact ⟨once, guarded.releases out⟩

/-- What the other entries keep is not changed when the one of an identity is. -/
theorem exists_rest (h : Sheltered l available setup pending w)
    (found : w.registry.entries.lookup identity = some e) :
    ∃ rest, w.registry.kept.Perm (e.kept ++ rest) ∧
      (∀ e', ((w.registry.entries.put identity e').values.flatMap Entry.kept).Perm (e'.kept ++ rest)) ∧
      ((w.registry.entries.erase identity).values.flatMap Entry.kept).Perm rest := by
  obtain ⟨rest, values, put, erase⟩ := Keyed.exists_rest h.keys found
  refine ⟨rest.flatMap Entry.kept, ?_, fun e' => ?_, erase.flatMap_right Entry.kept⟩
  · rw [← List.flatMap_cons]
    exact values.flatMap_right Entry.kept
  · rw [← List.flatMap_cons]
    exact (put e').flatMap_right Entry.kept

theorem own_put (h : Sheltered l available setup pending w) (own : e'.Own) :
    ∀ f ∈ (w.registry.entries.put identity e').values, f.Own := by
  intro f among
  rcases Keyed.mem_values_put among with rfl | among
  · exact own
  · exact h.own f among

/-- An entry is changed that goes on keeping what it kept. -/
theorem update (h : Sheltered l available setup pending w) (found : w.registry.entries.lookup identity = some e)
    (own : e'.Own) (same : e'.kept = e.kept) :
    Sheltered l available setup pending { w with registry := w.registry.update identity e' } := by
  obtain ⟨rest, keeps, put, _⟩ := h.exists_rest found
  refine h.entries (Keyed.distinct_put h.keys) (h.own_put own) ((put e').trans ?_) h.once h.guarded
  rw [same]
  exact keeps.symm

/-- An entry that kept nothing keeps a connection that was just opened. -/
theorem keep (h : Sheltered l available setup pending w) (found : w.registry.entries.lookup identity = some e)
    (nothing : e.kept = []) (own : e'.Own) {n : Nat} (one : e'.kept = [n]) (new : n ∉ w.registry.kept)
    (guarded : Guarded [] (n :: w.registry.kept) pending w.engine) :
    Sheltered l available setup pending { w with registry := w.registry.update identity e' } := by
  obtain ⟨rest, keeps, put, _⟩ := h.exists_rest found
  have put := put e'
  rw [nothing] at keeps
  rw [one] at put
  refine h.entries (Keyed.distinct_put h.keys) (h.own_put own) (put.trans (keeps.symm.cons n)) ?_ guarded
  exact List.nodup_cons.2 ⟨new, h.once⟩

/-- The connection that an entry did without is opened for it. -/
theorem openedFor (h : Sheltered l available setup pending w) (found : w.registry.entries.lookup identity = some e)
    (noConn : e.conn = none) (noPool : e.pool = none) {conn : Numbered ρ} (caught : Caught)
    (new : conn.number ∉ w.registry.kept) (guarded : Guarded [] (conn.number :: w.registry.kept) pending w.engine) :
    let r := w.registry.update identity { e with conn := some (.raw conn caught) }
    Sheltered l available setup pending { w with registry := r } ∧ conn.number ∈ r.kept := by
  have nothing : e.kept = [] := by rw [Entry.kept, noConn]
  refine ⟨h.keep found nothing (fun c is => ?_) rfl new guarded, ?_⟩
  · cases is
    exact ⟨noPool, conn, caught, rfl⟩
  · obtain ⟨rest, _, put, _⟩ := h.exists_rest found
    exact (put _).mem_iff.2 (.head _)

/-- An entry is closed: what it kept is pending. -/
theorem bare (h : Sheltered l available setup [] w) (found : w.registry.entries.lookup identity = some e) :
    Sheltered l available setup e.kept { w with registry := w.registry.update identity e.bare } := by
  obtain ⟨rest, keeps, put, _⟩ := h.exists_rest found
  obtain ⟨once, guarded⟩ := h.guarded_rest keeps
  exact h.entries (Keyed.distinct_put h.keys) (h.own_put nofun) (put e.bare) once guarded

/-- An entry is removed: what it kept is pending. -/
theorem remove (h : Sheltered l available setup [] w) (found : w.registry.entries.lookup identity = some e) :
    Sheltered l available setup e.kept { w with registry := w.registry.remove identity } := by
  obtain ⟨rest, keeps, _, erase⟩ := h.exists_rest found
  obtain ⟨once, guarded⟩ := h.guarded_rest keeps
  refine h.entries (Keyed.distinct_erase h.keys) (fun f among => ?_) erase once guarded
  exact h.own f (Keyed.mem_of_mem_values_erase among)

/-- The first entry is removed: what it kept is pending. -/
theorem removeFirst {es : List (Value × Entry (Handle (Numbered ρ)) Nat)} (h : Sheltered l available setup [] w)
    (first : w.registry.entries.entries = (identity, e) :: es) :
    Sheltered l available setup e.kept { w with registry := { w.registry with entries := ⟨es⟩ } } := by
  have values : w.registry.entries.values = e :: es.map Prod.snd := congrArg (List.map Prod.snd) first
  have keys := h.keys
  rw [Keyed.Distinct, first] at keys
  have keeps : w.registry.kept.Perm (e.kept ++ (es.map Prod.snd).flatMap Entry.kept) := by
    rw [Registry.kept, values, List.flatMap_cons]
  obtain ⟨once, guarded⟩ := h.guarded_rest keeps
  refine h.entries keys.of_cons (fun f among => ?_) (.refl _) once guarded
  exact h.own f (by rw [values]; exact .tail _ among)

/-- A new entry keeps nothing yet. -/
theorem insert (h : Sheltered l available setup pending w) (absent : w.registry.entries.lookup identity = none)
    (nothing : e'.conn = none) :
    Sheltered l available setup pending { w with registry := w.registry.update identity e' } := by
  have values := Keyed.values_put_new (v := e') absent
  have kept : e'.kept = [] := by rw [Entry.kept, nothing]
  have keeps : (w.registry.entries.put identity e').values.flatMap Entry.kept = w.registry.kept := by
    rw [values, List.flatMap_append, List.flatMap_singleton, kept, List.append_nil]
    rfl
  refine h.entries (Keyed.distinct_put h.keys) (h.own_put fun c is => ?_) (keeps ▸ .refl _) h.once h.guarded
  rw [nothing] at is
  cases is

end Entries

end Sheltered

/-! ## Statements -/

section Calls

variable {l : Client τ ρ γ} {available : Bool} {setup : PoolSetup} {pending : List Nat}
  {earlier : List RawEvent} {kept : List Nat} {w : OverseenWorld τ ρ}

/-- The run leaves nothing that has run neither kept nor taken back, wherever it stops. -/
def Run.Shelters (l : Client τ ρ γ) (available : Bool) (setup : PoolSetup)
    (x : Run (OverseenState τ ρ) (Handle (Numbered ρ)) Nat α) : Prop :=
  Run.Leads (fun w v => Sheltered l available setup [] w → Sheltered l available setup [] v) x

theorem follows_sheltered : Follows fun w v : OverseenWorld τ ρ =>
    Sheltered l available setup pending w → Sheltered l available setup pending v :=
  follows_of_invariant fun a h => h.alike a

namespace Dispatcher

open Client

variable {dp : Dispatcher} {s : Statement} {identity schemaName : Value} {e : Entry (Handle (Numbered ρ)) Nat}

/-- A statement is announced and runs then, unless announcing it fails. -/
theorem runOn_cases {σ κ π : Type} (dp : Dispatcher) (s : Statement) (c : κ) (w : World σ κ π) :
    ∃ v, w.Alike v ∧ (((dp.runOn s c).run w).2 = v ∨
      ((dp.runOn s c).run w).2 = ((Run.call fun d => d.query c s.sql (valuesOf s)).run v).2) := by
  have told := quiet_announce dp s w
  refine ⟨_, told, ?_⟩
  rw [runOn, Run.run_bind]
  rcases (dp.announce s).run w with ⟨f | _, v⟩
  · exact .inl rfl
  · exact .inr rfl

/-- What runs on a connection that is kept stays. -/
theorem sheltered_runOn_raw {conn : Numbered ρ} {caught : Caught} (h : Sheltered l available setup [] w)
    (keeps : conn.number ∈ w.registry.kept) :
    Sheltered l available setup [] ((dp.runOn s (.raw conn caught)).run w).2 := by
  obtain ⟨v, told, ended | ended⟩ := runOn_cases dp s (.raw conn caught) w <;> rw [ended]
  · exact h.alike told
  · have still := h.alike told
    exact still.call (guarded_queryOn_raw still.guarded caught (told.registry ▸ keeps) _ _)

/-- What runs on a leased connection is pending until it is given back. -/
theorem guarded_runOn_leased (driver : w.registry.driver = l.overseen.driver available setup)
    (h : Guarded earlier kept [] w.engine) {n k : Nat} {conn : Numbered ρ}
    (lease : w.engine.leases[n]? = some ⟨k, some conn⟩) (dp : Dispatcher) (s : Statement) :
    let v := ((dp.runOn s (.leased n)).run w).2
    v.registry = w.registry ∧ Guarded earlier kept [conn.number] v.engine ∧
      v.engine.leases[n]? = some ⟨k, some conn⟩ := by
  obtain ⟨v, told, ended⟩ := runOn_cases dp s (.leased n) w
  rw [← told.engine] at h lease
  rw [← told.registry] at driver
  obtain ended | ended := ended <;> rw [ended]
  · have held := h.held _ (.leased (List.mem_of_getElem? lease) rfl)
    exact ⟨told.registry, h.cons held, lease⟩
  · have queried (params : Value) := guarded_queryOn_leased (l := l) h lease s.sql params
    rw [Run.run_call_of driver]
    refine ⟨told.registry, (queried _).1, ?_⟩
    rw [← lease]
    exact congrArg (·[n]?) (queried _).2

/-- A connection out of the pool is given back in any case, and what ran on it is taken back. -/
theorem guarded_pooled (driver : w.registry.driver = l.overseen.driver available setup)
    (h : Guarded earlier kept [] w.engine) (p : Nat) (dp : Dispatcher) (s : Statement) :
    let v := ((do
      let c ← Run.call fun d => d.acquire p
      Run.ensure (dp.runOn s c) (Run.call fun d => d.close c) : Run _ _ _ _).run w).2
    v.registry = w.registry ∧ Guarded earlier kept [] v.engine := by
  obtain ⟨guarded, leased⟩ := guarded_acquire (l := l) h p
  have acquiring : (Run.call fun d => d.acquire p).run w =
      ((l.overseen.acquire p w.engine).1, { w with engine := (l.overseen.acquire p w.engine).2 }) :=
    Run.run_call_of driver _
  cases answer : (l.overseen.acquire p w.engine).1 with
  | error f =>
    rw [answer] at acquiring
    rw [Run.run_bind_error acquiring]
    exact ⟨rfl, guarded⟩
  | ok c =>
    obtain ⟨n, conn, rfl, lease⟩ := leased c answer
    rw [answer] at acquiring
    rw [Run.run_bind_ok acquiring, Run.snd_ensure]
    let acquired : OverseenWorld τ ρ := { w with engine := (l.overseen.acquire p w.engine).2 }
    have driver : acquired.registry.driver = l.overseen.driver available setup := driver
    obtain ⟨registry, ran, lease⟩ := guarded_runOn_leased driver guarded lease dp s
    rw [Run.run_call_of (registry ▸ driver)]
    exact ⟨registry, guarded_close_leased ran lease⟩

/-- Logging changes nothing but the journal, and does not change what is answered afterwards. -/
theorem alike_noted {σ κ π : Type} (n : Note) (a : α) (w : World σ κ π) :
    w.Alike ((do
      Run.log n
      return a : Run σ κ π α).run w).2 ∧ ∀ b, ((do
      Run.log n
      return a : Run σ κ π α).run w).1 = .ok b → b = a := by
  refine ⟨Run.quiet_bind (Run.quiet_log n) (fun _ => Run.quiet_pure a) w, fun b answered => ?_⟩
  obtain ⟨_, v, _, ended⟩ := Run.exists_of_run_bind_ok (Prod.ext answered rfl)
  cases ended
  rfl

/-- A connection that was just opened is kept, or lost before anything ran on it. -/
theorem sheltered_openKept (h : Sheltered l available setup [] w)
    (found : w.registry.entries.lookup identity = some e) (noConn : e.conn = none) (noPool : e.pool = none) :
    Sheltered l available setup [] ((openKept identity e).run w).2 ∧
      ∀ c, ((openKept identity e).run w).1 = .ok c → ∃ conn caught, c = .raw conn caught ∧
        conn.number ∈ ((openKept identity e).run w).2.registry.kept := by
  let u : OverseenWorld τ ρ :=
    { w with engine := ((l.overseen.driver available setup).connect e.connectionString w.engine).2 }
  obtain ⟨guarded, answers⟩ := guarded_connect (l := l) h.guarded available setup e.connectionString
  have still : Sheltered l available setup [] u := h.moved rfl guarded
  have connecting := Run.run_call_of h.driver fun d => d.connect e.connectionString
  unfold openKept
  cases answer : ((l.overseen.driver available setup).connect e.connectionString w.engine).1 with
  | error f =>
    rw [answer] at connecting
    rw [Run.run_bind_error connecting]
    exact ⟨still, nofun⟩
  | ok c =>
    obtain ⟨conn, caught, rfl, new, keeps⟩ := answers c answer
    rw [answer] at connecting
    rw [Run.run_bind_ok connecting, Run.run_bind_ok (Run.run_registry _), Run.run_bind]
    have logged : u.Alike ((Run.logAll w.registry.driver.opened).run u).2 := Run.quiet_logAll _ u
    rcases told : (Run.logAll w.registry.driver.opened).run u with ⟨f | _, v⟩ <;> rw [told] at logged
    · exact ⟨still.alike logged, nofun⟩
    · -- the entry keeps the connection, whatever becomes of logging that
      have before := still.alike logged
      have found' : v.registry.entries.lookup identity = some e := by rw [logged.registry]; exact found
      have new' : conn.number ∉ v.registry.kept := by rw [logged.registry]; exact new
      have keeps' : Guarded [] (conn.number :: v.registry.kept) [] v.engine := by
        rw [logged.registry, logged.engine]
        exact keeps
      obtain ⟨kept, among⟩ := before.openedFor found' noConn noPool caught new' keeps'
      dsimp only
      rw [Run.run_bind_ok (Run.run_changeRegistry _ v)]
      refine ⟨kept.alike (alike_noted openedNote _ _).1, fun c answered => ⟨conn, caught, ?_, ?_⟩⟩
      · exact (alike_noted openedNote _ _).2 c answered
      · rw [(alike_noted openedNote _ _).1.registry]
        exact among

theorem sheltered_withConnection (h : Sheltered l available setup [] w) (found : w.registry.resolve identity = .ok e) :
    Sheltered l available setup [] ((withConnection identity e (dp.runOn s)).run w).2 := by
  have held := Registry.lookup_of_resolve found
  have among := Keyed.mem_values_of_lookup held
  unfold withConnection
  split
  · next p _ =>
    obtain ⟨registry, guarded⟩ := guarded_pooled h.driver h.guarded p dp s
    exact h.moved registry guarded
  · next noPool =>
    split
    · next c keeps =>
      obtain ⟨_, conn, caught, rfl⟩ := h.own e among c keeps
      exact sheltered_runOn_raw h (List.mem_flatMap.2 ⟨e, among, Entry.mem_kept keeps⟩)
    · next noConn =>
      have opened := sheltered_openKept h held noConn noPool
      rw [Run.run_bind]
      rcases ended : (openKept identity e).run w with ⟨f | c, v⟩ <;> rw [ended] at opened
      · exact opened.1
      · obtain ⟨conn, caught, rfl, keeps⟩ := opened.2 c rfl
        exact sheltered_runOn_raw opened.1 keeps

/-- Whatever ran, on whichever connection, is either kept or taken back. -/
theorem shelters_execute : Run.Shelters l available setup (dp.execute identity s schemaName) :=
  leads_execute follows_sheltered fun _ _ found h => sheltered_withConnection h found

end Dispatcher

/-! ## Entries closed, torn down and registered -/

namespace Registry

variable {identity : Value} {e : Entry (Handle (Numbered ρ)) Nat}

/-- Closing what an entry held takes back what ran on the connection that it kept. -/
theorem sheltered_closeHeld (h : Sheltered l available setup e.kept w) (own : e.Own) :
    Sheltered l available setup [] ((closeHeld e).run w).2 := by
  cases keeps : e.conn with
  | none =>
    rw [Entry.kept, keeps] at h
    rw [snd_closeHeld_of_noConn keeps]
    refine leads_release follows_sheltered (fun p _ v still => ?_) w h
    exact still.call (Client.guarded_disposePool still.guarded p)
  | some c =>
    obtain ⟨noPool, conn, caught, rfl⟩ := own c keeps
    rw [Entry.kept, keeps] at h
    rw [snd_closeHeld_of_noPool noPool, keeps, release, snd_enginesError?]
    exact h.call (Client.guarded_close_raw h.guarded caught)

theorem sheltered_closeRemoved (h : Sheltered l available setup e.kept w) (own : e.Own) :
    Sheltered l available setup [] ((closeRemoved identity e).run w).2 :=
  (sheltered_closeHeld h own).alike (alike_closeRemoved identity e w)

theorem shelters_teardown (identity : Value) :
    Run.Shelters l available setup (teardown identity) := by
  refine leads_teardown follows_sheltered (fun _ w => ?_) fun w e found h => ?_
  · refine leads_tearDownEach follows_sheltered (fun w i e es entries h => ?_) _ w rfl
    have first : e ∈ w.registry.entries.values := by
      rw [Keyed.values, entries]
      exact .head _
    exact sheltered_closeRemoved (h.removeFirst entries) (h.own e first)
  · rw [tearDownOne, Run.run_bind_ok (Run.run_changeRegistry _ w)]
    exact sheltered_closeRemoved (h.remove found) (h.own e (Keyed.mem_values_of_lookup found))

theorem shelters_closeEntry (identity : Value) :
    Run.Shelters l available setup (closeEntry identity) := by
  refine Run.leads_bind_of follows_sheltered ((quiet_resolved identity).leads follows_sheltered) ?_
  intro w e v resolved h
  rw [run_resolved] at resolved
  obtain ⟨found, rfl⟩ := Prod.mk.inj resolved
  have held := lookup_of_resolve found
  rw [Run.run_bind_ok (Run.run_changeRegistry _ w)]
  exact sheltered_closeHeld (h.bare held) (h.own e (Keyed.mem_values_of_lookup held))

theorem shelters_addSchema (identity name : Value) (s : Registered) :
    Run.Shelters l available setup (addSchema identity name s) := by
  refine leads_addSchema follows_sheltered fun w e found h => ?_
  have held := lookup_of_resolve found
  exact h.update held (h.own e (Keyed.mem_values_of_lookup held)) rfl

theorem sheltered_poolOf (c : Config) (h : Sheltered l available setup [] w) :
    Sheltered l available setup [] ((poolOf c).run w).2 ∧ ((poolOf c).run w).2.registry = w.registry := by
  unfold poolOf
  split
  · have made := Client.guarded_createPool (l := l) h.guarded available setup c.connectionString
    rw [Run.run_bind, Run.run_call_of h.driver]
    cases ((l.overseen.driver available setup).createPool c.connectionString w.engine).1 <;>
      exact ⟨h.moved rfl made, rfl⟩
  · exact ⟨h, rfl⟩

/-- A new entry keeps nothing yet, and in its pool nothing waits. -/
theorem shelters_register (given : ConfigGiven) (schemas : Description) :
    Run.Shelters l available setup (register given schemas) := by
  refine leads_register_of follows_sheltered (fun w c ss _ absent => ?_) given
  have pooled (h : Sheltered l available setup [] w) := sheltered_poolOf c h
  rcases made : (poolOf c).run w with ⟨f | pool, v⟩ <;> rw [made] at pooled
  · exact fun h => (pooled h).1
  · intro h
    obtain ⟨still, registry⟩ := pooled h
    exact still.insert (by rw [registry]; exact absent) rfl

end Registry

/-- Whatever is asked leaves nothing that has run neither kept nor taken back. -/
theorem shelters_call (g : Gateway) (c : Call) : Run.Shelters l available setup (c.run g) := by
  cases c with
  | registerConnection config schemas =>
    exact Run.leads_dropped follows_sheltered (Run.leads_settle (Registry.shelters_register config schemas))
  | teardown identity =>
    exact Run.leads_dropped follows_sheltered (Run.leads_settle (Registry.shelters_teardown identity))
  | tearDownEntries identity => exact Registry.shelters_teardown identity
  | closeEntry identity => exact Registry.shelters_closeEntry identity
  | addSchema identity name s => exact Registry.shelters_addSchema identity name s
  | execute identity s schemaName => exact Run.leads_dropped follows_sheltered Dispatcher.shelters_execute
  | operate identity schemaName o =>
    refine Run.leads_dropped follows_sheltered ?_
    refine Gateway.leads_perform follows_sheltered (fun st => Dispatcher.shelters_execute) (fun s => ?_) o
    exact Registry.shelters_addSchema identity schemaName s

/-! ## Operations over a pool -/

/-- The identity goes by its pool, and what has run after the events `earlier` was taken back. -/
structure Pooling (l : Client τ ρ γ) (available : Bool) (setup : PoolSetup) (identity : Value)
    (earlier : List RawEvent) (w : OverseenWorld τ ρ) : Prop where
  driver : w.registry.driver = l.overseen.driver available setup
  pooled : ∃ e p, w.registry.entries.lookup identity = some e ∧ e.pool = some p
  guarded : Guarded earlier [] [] w.engine

/-- The run takes back whatever it runs under the identity. -/
def Run.TakesBack (l : Client τ ρ γ) (available : Bool) (setup : PoolSetup) (identity : Value)
    (earlier : List RawEvent) (x : Run (OverseenState τ ρ) (Handle (Numbered ρ)) Nat α) : Prop :=
  Run.Leads (fun w v => Pooling l available setup identity earlier w → Pooling l available setup identity earlier v) x

section Pools

variable {identity : Value}

theorem follows_pooling : Follows fun w v : OverseenWorld τ ρ =>
    Pooling l available setup identity earlier w → Pooling l available setup identity earlier v := by
  refine follows_of_invariant fun a h => ⟨?_, ?_, ?_⟩
  · rw [a.registry]; exact h.driver
  · rw [a.registry]; exact h.pooled
  · rw [a.engine]; exact h.guarded

theorem Dispatcher.takesBack_execute {dp : Dispatcher} {s : Statement} {schemaName : Value} :
    Run.TakesBack l available setup identity earlier (dp.execute identity s schemaName) := by
  refine leads_execute follows_pooling fun w e found h => ?_
  obtain ⟨e', p, held, pool⟩ := h.pooled
  cases held.symm.trans (Registry.lookup_of_resolve found)
  unfold withConnection
  rw [pool]
  obtain ⟨registry, guarded⟩ := guarded_pooled h.driver h.guarded p dp s
  exact ⟨registry ▸ h.driver, registry ▸ h.pooled, guarded⟩

theorem Registry.takesBack_addSchema (name : Value) (s : Registered) :
    Run.TakesBack l available setup identity earlier (addSchema identity name s) := by
  refine leads_addSchema follows_pooling fun w e found h => ?_
  obtain ⟨e', p, held, pool⟩ := h.pooled
  cases held.symm.trans (lookup_of_resolve found)
  refine ⟨h.driver, ⟨e.addSchema name s, p, ?_, pool⟩, h.guarded⟩
  show (w.registry.entries.put identity _).lookup identity = _
  rw [Keyed.lookup_put, if_pos (Keyed.same_self_of_lookup held)]

/-- Whatever an operation runs over a pool is taken back before the operation ends. -/
theorem takesBack_operate (g : Gateway) (schemaName : Value) (o : Operation) :
    Run.TakesBack l available setup identity earlier ((Call.operate identity schemaName o).run g) :=
  Run.leads_dropped follows_pooling
    (Gateway.leads_perform follows_pooling (fun _ => Dispatcher.takesBack_execute) (Registry.takesBack_addSchema _) o)

end Pools

end Calls

/-! ## Sessions -/

/-- A session on one registry over the driver of a library, from the moment at which nothing is registered yet: any
calls, in any order, through any gateways. Between calls everything may change but the registry, the pools with their
leases, and what happened to the raw connections. -/
inductive OverseenSession (l : Client τ ρ γ) (available : Bool) (setup : PoolSetup) : OverseenWorld τ ρ → Prop
  | start {w : OverseenWorld τ ρ} (driver : w.registry.driver = l.overseen.driver available setup)
    (entries : w.registry.entries = {}) (pools : w.engine.pools = []) (leases : w.engine.leases = [])
    (events : w.engine.events = []) : OverseenSession l available setup w
  | call {w : OverseenWorld τ ρ} (s : OverseenSession l available setup w) (g : Gateway) (c : Call) :
    OverseenSession l available setup ((c.run g).run w).2
  | aside {w v : OverseenWorld τ ρ} (s : OverseenSession l available setup w) (registry : v.registry = w.registry)
    (pools : v.engine.pools = w.engine.pools) (leases : v.engine.leases = w.engine.leases)
    (events : v.engine.events = w.engine.events) : OverseenSession l available setup v

namespace OverseenSession

variable {l : Client τ ρ γ} {available : Bool} {setup : PoolSetup} {w : OverseenWorld τ ρ}

theorem sheltered (s : OverseenSession l available setup w) : Sheltered l available setup [] w := by
  induction s with
  | @start w driver entries pools leases events =>
    have kept : w.registry.kept = [] := by rw [Registry.kept, entries]; rfl
    refine ⟨driver, ?_, ?_, ?_, ?_⟩
    · rw [entries]; exact Keyed.distinct_nil
    · rw [entries]; exact fun e he => by cases he
    · rw [kept]; exact List.nodup_nil
    · rw [kept]
      have nothing : Guarded w.engine.events [] [] w.engine := by
        refine .begins (fun n holds => ?_) ?_
        · cases holds with
          | waiting pool idle => rw [pools] at pool; cases pool
          | leased made out => rw [leases] at made; cases made
        · rw [events]; exact nofun
      rw [events] at nothing
      exact nothing
  | call s g c ih => exact shelters_call g c _ ih
  | @aside w v s registry pools leases events ih =>
    exact ih.moved registry (ih.guarded.same events fun n holds => .inl (holds.of_same pools leases))

/-- **What has run stays** exactly as long as an entry without a pool keeps the connection that it ran on. After every
call of a session,

1. these are just the statements whose connection was neither rolled back nor closed since they ran without error;
2. whatever the next operation runs, if it is one under an identity that has a pool, it also takes back. -/
theorem stays_iff (s : OverseenSession l available setup w) :
    (∀ before n sql after, w.engine.events = before ++ .executed n sql :: after →
      (n ∉ after.filterMap RawEvent.undone? ↔ ∃ e ∈ w.registry.entries.values, e.pool = none ∧ n ∈ e.kept)) ∧
    ∀ (g : Gateway) identity schemaName o e p, w.registry.entries.lookup identity = some e → e.pool = some p →
      ∃ news, (((Call.operate identity schemaName o).run g).run w).2.engine.events = w.engine.events ++ news ∧
        ∀ before n sql after, news = before ++ .executed n sql :: after → n ∈ after.filterMap RawEvent.undone? := by
  have h := s.sheltered
  refine ⟨fun before n sql after ran => ⟨fun stays => ?_, ?_⟩, fun g identity schemaName o e p found pool => ?_⟩
  · rcases h.guarded.settled before n sql after ran with keeps | waits | taken
    · obtain ⟨e, among, keeps⟩ := List.mem_flatMap.1 keeps
      exact ⟨e, among, (h.own e among).noPool keeps, keeps⟩
    · cases waits
    · exact absurd taken stays
  · rintro ⟨e, among, _, keeps⟩ taken
    refine h.guarded.untouched n (List.mem_flatMap.2 ⟨e, among, keeps⟩) ?_
    rw [ran, List.filterMap_append]
    obtain ⟨x, later, undone⟩ := List.mem_filterMap.1 taken
    exact List.mem_append_right _ (List.mem_filterMap.2 ⟨x, .tail _ later, undone⟩)
  · have nothing : Guarded w.engine.events [] [] w.engine :=
      .begins (fun n holds => (h.guarded.held n holds).1) h.guarded.past
    have ended := (takesBack_operate g schemaName o w ⟨h.driver, ⟨e, p, found, pool⟩, nothing⟩).guarded
    obtain ⟨news, grown⟩ := ended.grown
    refine ⟨news, grown.symm, fun before n sql after ran => ?_⟩
    rcases ended.settled before n sql after (by rw [← grown, ran]) with keeps | waits | taken
    · cases keeps
    · cases waits
    · exact taken

/-- The world that calls through one gateway lead to, the latest first. -/
def calls (g : Gateway) (w : OverseenWorld τ ρ) : List Call → OverseenWorld τ ρ
  | [] => w
  | c :: earlier => ((c.run g).run (calls g w earlier)).2

theorem of_calls (g : Gateway) (start : OverseenSession l available setup w) (cs : List Call) :
    OverseenSession l available setup (calls g w cs) := by
  induction cs with
  | nil => exact start
  | cons c cs ih => exact ih.call g c

/-! ### A session with a library that does all that it is asked -/

def obliging : Client Unit Unit Unit := .faulty fun _ => none

/-- Nothing is registered yet. -/
def unused : OverseenWorld Unit Unit where
  engine := { client := { client := () } }
  registry := { driver := obliging.overseen.driver true {} }

def notes : Description :=
  .mapping [(.text "notes", .schema { table := .text "notes", attributes := ⟨[(.text "id", {})]⟩ })]

/-- Two identities, one of them with a pool; the latest first. -/
def twoIdentities : List Call :=
  [.registerConnection (.built { identity := .text "kept" }) notes,
    .registerConnection (.built { identity := .text "pooled", pool := .bool true }) notes]

def noteOf (n : Int) : Value := .map [(.text "id", .int n)]

/-- A row is added over the pool. -/
def addedOverPool : List Call :=
  .operate (.text "pooled") (.text "notes") (.request (.create (noteOf 1))) :: twoIdentities

/-- Then one is added under the other identity. -/
def addedTwice : List Call := .operate (.text "kept") (.text "notes") (.request (.create (noteOf 2))) :: addedOverPool

/-- The row that was added over the connection that its entry keeps is still there. The other one was taken back before
it could be looked for. -/
theorem stays_iff_two :
    (∃ e ∈ (calls {} unused addedTwice).registry.entries.values, e.pool = none ∧ 3 ∈ e.kept) ∧
      (¬∃ e ∈ (calls {} unused addedTwice).registry.entries.values, e.pool = none ∧ 0 ∈ e.kept) ∧
      ∀ before n sql after, (calls {} unused addedOverPool).engine.events = before ++ .executed n sql :: after →
        n ∈ after.filterMap RawEvent.undone? := by
  have start : OverseenSession obliging true {} unused := .start rfl rfl rfl rfl rfl
  have stays := (stays_iff (of_calls {} start addedTwice)).1
  have first := stays [.opened] 0 _ [.rolledBack 0, .opened, .executed 3 _] rfl
  have second := stays [.opened, .executed 0 _, .rolledBack 0, .opened] 3 _ [] rfl
  have takesBack := (stays_iff (of_calls {} start twoIdentities)).2 {} (.text "pooled") (.text "notes")
  obtain ⟨news, grown, undone⟩ := takesBack (.request (.create (noteOf 1))) _ 0 rfl rfl
  exact ⟨second.1 nofun, fun keeps => first.2 keeps (.head _),
    fun before n sql after ran => undone before n sql after (grown.symm.trans ran)⟩

/-- Over a pool, a row is added and answered as it is stored, and taken back before the call ends. -/
theorem added_in_vain :
    let w := calls {} unused twoIdentities
    let added := (Gateway.create {} (.text "pooled") (.text "notes") (noteOf 1)).run w
    OverseenSession obliging true {} w ∧ added.1 = .ok (.ok (.map [(.text "ID", .int 1)])) ∧
      added.2.engine.events =
        [.opened, .executed 0 "SELECT id FROM FINAL TABLE (INSERT INTO notes (id) VALUES (?))", .rolledBack 0] :=
  ⟨of_calls {} (.start rfl rfl rfl rfl rfl) _, rfl, by decide⟩

end OverseenSession

end TableGateway
