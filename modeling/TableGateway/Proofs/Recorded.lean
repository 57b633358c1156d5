import TableGateway.Proofs.Operation

/-!
# Recorded drivers

`Driver.recorded` works as the driver inside it and keeps a record of every call with what it came to. A connection or
a pool is told by the place in the record of the call that made it, so no two of them are confused, whatever the
driver inside hands out.

- **`call_connect`**, **`call_acquire`**, **`call_query`**, **`call_close`**, ...: a call adds one exchange to the
  record, and nothing else changes but the driver's own state.
-/

namespace TableGateway

variable {σ κ π α : Type}

/-- A call to a driver and what it came to. Connections and pools are told by their numbers. -/
inductive Exchange where
  | connect (cs : String) (answer : Except Failure Nat)
  | createPool (cs : String) (answer : Except Failure Nat)
  | acquire (pool : Nat) (answer : Except Failure Nat)
  | query (conn : Nat) (sql : String) (params : Option (List Value)) (answer : Except Failure (List Value))
  | close (conn : Nat) (answer : Except Failure Unit)
  | dispose (pool : Nat) (answer : Except Failure Unit)

/-- A driver's state and the record of the calls so far. -/
structure Recorded (σ : Type) where
  engine : σ
  exchanges : List Exchange := []

/-- A connection or a pool with its number. -/
structure Numbered (α : Type) where
  number : Nat
  item : α

namespace Recorded

/-- The number of what the next call makes. -/
def next (s : Recorded σ) : Nat := s.exchanges.length

/-- Records a call that makes a connection or a pool. -/
def making (s : Recorded σ) (exchange : Except Failure Nat → Exchange) (result : Except Failure α × σ) :
    Except Failure (Numbered α) × Recorded σ :=
  (result.1.map (Numbered.mk s.next), ⟨result.2, s.exchanges ++ [exchange (result.1.map fun _ => s.next)]⟩)

/-- Records any other call. -/
def doing (s : Recorded σ) (exchange : Except Failure α → Exchange) (result : Except Failure α × σ) :
    Except Failure α × Recorded σ :=
  (result.1, ⟨result.2, s.exchanges ++ [exchange result.1]⟩)

end Recorded

/-- The driver with a record of its calls. -/
def Driver.recorded (d : Driver σ κ π) : Driver (Recorded σ) (Numbered κ) (Numbered π) where
  connect cs s := s.making (.connect cs) (d.connect cs s.engine)
  createPool cs s := s.making (.createPool cs) (d.createPool cs s.engine)
  acquire p s := s.making (.acquire p.number) (d.acquire p.item s.engine)
  query c sql params s := s.doing (.query c.number sql params) (d.query c.item sql params s.engine)
  close c s := s.doing (.close c.number) (d.close c.item s.engine)
  dispose p s := s.doing (.dispose p.number) (d.dispose p.item s.engine)
  opened := d.opened

/-- A driver that answers the same at any time: to opening or acquiring a connection, to statements, and to closing a
connection. -/
def Driver.steady (opening : Except Failure Unit) (answer : Except Failure (List Value))
    (closing : Except Failure Unit) : Driver Unit Unit Unit where
  connect _ s := (opening, s)
  createPool _ s := (.ok (), s)
  acquire _ s := (opening, s)
  query _ _ _ s := (answer, s)
  close _ s := (closing, s)
  dispose _ s := (.ok (), s)

/-- Worlds whose driver keeps a record. -/
abbrev RecordedWorld (σ κ π : Type) := World (Recorded σ) (Numbered κ) (Numbered π)

namespace RecordedWorld

/-- The record of the calls so far. -/
def record (w : RecordedWorld σ κ π) : List Exchange := w.engine.exchanges

theorem record_alike {w v : RecordedWorld σ κ π} (a : w.Alike v) : v.record = w.record :=
  congrArg Recorded.exchanges a.engine

/-- One exchange was added to the record; otherwise only the driver's own state may differ. -/
structure Adds (w : RecordedWorld σ κ π) (x : Exchange) (v : RecordedWorld σ κ π) : Prop where
  record : v.record = w.record ++ [x]
  registry : v.registry = w.registry
  writes : v.writes = w.writes
  bound : v.bound = w.bound

/-- The world works with the recorded driver, and what the driver logs of a connection that it has opened is taken. -/
structure Ready (d : Driver σ κ π) (w : RecordedWorld σ κ π) : Prop where
  driver : w.registry.driver = d.recorded
  written : ∀ n ∈ d.opened, ∀ b, w.writes ⟨n, b⟩ = .ok ()

theorem Ready.alike {d : Driver σ κ π} {w v : RecordedWorld σ κ π} (h : Ready d w) (a : w.Alike v) : Ready d v :=
  ⟨by rw [a.registry]; exact h.driver, fun n hn b => by rw [a.writes]; exact h.written n hn b⟩

theorem Ready.adds {d : Driver σ κ π} {w v : RecordedWorld σ κ π} {x : Exchange} (h : Ready d w) (a : w.Adds x v) :
    Ready d v :=
  ⟨by rw [a.registry]; exact h.driver, fun n hn b => by rw [a.writes]; exact h.written n hn b⟩

theorem Ready.update {d : Driver σ κ π} {w : RecordedWorld σ κ π} (h : Ready d w) (identity : Value)
    (e : Entry (Numbered κ) (Numbered π)) : Ready d { w with registry := w.registry.update identity e } :=
  ⟨h.driver, h.written⟩

end RecordedWorld

/-! ## Calls to a recorded driver -/

section Calls

variable {d : Driver σ κ π} {w : RecordedWorld σ κ π}

theorem call_connect (h : w.registry.driver = d.recorded) (cs : String) :
    ∃ (r : Except Failure κ) (v : RecordedWorld σ κ π), (Run.call fun d => d.connect cs).run w =
        (r.map (Numbered.mk w.record.length), v) ∧ w.Adds (.connect cs (r.map fun _ => w.record.length)) v := by
  refine ⟨(d.connect cs w.engine.engine).1, _, by simp only [Run.call, h]; rfl, ?_⟩
  exact ⟨rfl, rfl, rfl, rfl⟩

theorem call_createPool (h : w.registry.driver = d.recorded) (cs : String) :
    ∃ (r : Except Failure π) (v : RecordedWorld σ κ π), (Run.call fun d => d.createPool cs).run w =
        (r.map (Numbered.mk w.record.length), v) ∧ w.Adds (.createPool cs (r.map fun _ => w.record.length)) v := by
  refine ⟨(d.createPool cs w.engine.engine).1, _, by simp only [Run.call, h]; rfl, ?_⟩
  exact ⟨rfl, rfl, rfl, rfl⟩

theorem call_acquire (h : w.registry.driver = d.recorded) (p : Numbered π) :
    ∃ (r : Except Failure κ) (v : RecordedWorld σ κ π), (Run.call fun d => d.acquire p).run w =
        (r.map (Numbered.mk w.record.length), v) ∧
      w.Adds (.acquire p.number (r.map fun _ => w.record.length)) v := by
  refine ⟨(d.acquire p.item w.engine.engine).1, _, by simp only [Run.call, h]; rfl, ?_⟩
  exact ⟨rfl, rfl, rfl, rfl⟩

theorem call_query (h : w.registry.driver = d.recorded) (c : Numbered κ) (sql : String)
    (params : Option (List Value)) :
    ∃ r v, (Run.call fun d => d.query c sql params).run w = (r, v) ∧ w.Adds (.query c.number sql params r) v := by
  refine ⟨(d.query c.item sql params w.engine.engine).1, _, by simp only [Run.call, h]; rfl, ?_⟩
  exact ⟨rfl, rfl, rfl, rfl⟩

theorem call_close (h : w.registry.driver = d.recorded) (c : Numbered κ) :
    ∃ r v, (Run.call fun d => d.close c).run w = (r, v) ∧ w.Adds (.close c.number r) v := by
  refine ⟨(d.close c.item w.engine.engine).1, _, by simp only [Run.call, h]; rfl, ?_⟩
  exact ⟨rfl, rfl, rfl, rfl⟩

theorem call_dispose (h : w.registry.driver = d.recorded) (p : Numbered π) :
    ∃ r v, (Run.call fun d => d.dispose p).run w = (r, v) ∧ w.Adds (.dispose p.number r) v := by
  refine ⟨(d.dispose p.item w.engine.engine).1, _, by simp only [Run.call, h]; rfl, ?_⟩
  exact ⟨rfl, rfl, rfl, rfl⟩

/-- A pool is made when the configuration asks for one, unless the driver fails to make it. -/
theorem Registry.run_poolOf (h : w.registry.driver = d.recorded) (c : Config) :
    (c.pool.isTruthy = false ∧ (poolOf c).run w = (.ok none, w)) ∨
      c.pool.isTruthy = true ∧ ∃ (r : Except Failure π) (v : RecordedWorld σ κ π),
        (poolOf c).run w = (r.map fun p => some ⟨w.record.length, p⟩, v) ∧
          w.Adds (.createPool c.connectionString (r.map fun _ => w.record.length)) v := by
  unfold poolOf
  by_cases asks : c.pool.isTruthy = true
  · obtain ⟨r, v, run, adds⟩ := call_createPool h c.connectionString
    refine Or.inr ⟨asks, r, v, ?_, adds⟩
    rw [if_pos asks]
    cases r with
    | error f => exact Run.run_bind_error run
    | ok p => exact Run.run_bind_ok run
  · exact Or.inl ⟨Bool.eq_false_iff.2 asks, by rw [if_neg asks]; rfl⟩

/-- A new connection is kept by the entry, unless the driver fails to open it. After that only logging may fail. -/
theorem run_openKept (h : w.Ready d) (identity : Value) (e : Entry (Numbered κ) (Numbered π)) :
    ∃ (r : Except Failure κ) (v : RecordedWorld σ κ π),
      w.Adds (.connect e.connectionString (r.map fun _ => w.record.length)) v ∧
      match r with
      | .error f => (Dispatcher.openKept identity e).run w = (.error f, v)
      | .ok c => ∃ q u, (Dispatcher.openKept identity e).run w = (q, u) ∧
          (q = .ok ⟨w.record.length, c⟩ ∨ ∃ l f, w.writes l = .error f ∧ q = .error (.broken f)) ∧
          World.Alike
            { v with registry := v.registry.update identity { e with conn := some ⟨w.record.length, c⟩ } } u := by
  obtain ⟨r, v, run, adds⟩ := call_connect h.driver e.connectionString
  refine ⟨r, v, adds, ?_⟩
  cases r with
  | error f => exact Run.run_bind_error run
  | ok c =>
    have ready := h.adds adds
    have written : ∀ n ∈ v.registry.driver.opened, v.writes ⟨n, v.bound⟩ = .ok () := by
      rw [ready.driver]
      exact fun n hn => ready.written n hn v.bound
    obtain ⟨u, logged, same⟩ := Run.run_logAll_ok written
    let kept : RecordedWorld σ κ π :=
      { u with registry := u.registry.update identity { e with conn := some ⟨w.record.length, c⟩ } }
    have told := Run.quiet_log Dispatcher.openedNote kept
    have ended := Run.fst_log Dispatcher.openedNote kept
    have before : World.Alike
        { v with registry := v.registry.update identity { e with conn := some ⟨w.record.length, c⟩ } } kept :=
      ⟨same.engine, by rw [← same.registry], same.writes⟩
    have opening : (Dispatcher.openKept identity e).run w =
        (do
          Run.log Dispatcher.openedNote
          return ⟨w.record.length, c⟩ : Run _ _ _ _).run kept := by
      unfold Dispatcher.openKept
      rw [Run.run_bind_ok run, Run.run_bind_ok (Run.run_registry v), Run.run_bind_ok logged,
        Run.run_bind_ok (Run.run_changeRegistry _ u)]
    rcases logging : (Run.log Dispatcher.openedNote).run kept with ⟨r, u'⟩
    rw [logging] at told ended
    cases r with
    | ok _ => exact ⟨_, u', opening.trans (Run.run_bind_ok logging), Or.inl rfl, before.trans told⟩
    | error f =>
      refine ⟨_, u', opening.trans (Run.run_bind_error logging), Or.inr ?_, before.trans told⟩
      rcases ended with ended | ⟨l, f', refused, ended⟩
      · cases ended
      · cases ended
        exact ⟨l, f', by rw [← adds.writes, ← same.writes]; exact refused, rfl⟩

end Calls

end TableGateway
