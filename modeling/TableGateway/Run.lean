import TableGateway.Journal.Bindings
import TableGateway.Outcome
import TableGateway.Registry

/-!
# Runs

A run is a computation in a world: the engine behind the driver, the registry, the values bound for logging, the
journal of what was logged, and the statements that the caller's listener has heard. A run may fail; what it did before
stays done. The journal may refuse an event that it cannot write, and then logging it fails.

- **`run_bind`**, **`run_attempt`**, **`run_ensure_ok`**: how runs are put together.
- **`run_log`**: an event that is not refused goes to the end of the journal.
- **`bound_binding`**: what a scope binds is taken away however the run inside ends.
-/

namespace TableGateway

/-- An event in the journal, with what was bound when it was logged. -/
structure Logged where
  note : Note
  bound : Bindings

structure World (σ κ π : Type) where
  engine : σ
  registry : Registry σ κ π
  bound : Bindings := {}
  journal : List Logged := []
  /-- Can the event be written to the journal? -/
  writes : Logged → Except Fault Unit := fun _ => .ok ()
  heard : List String := []

/-- A computation in a world. -/
structure Run (σ κ π α : Type) where
  run : World σ κ π → Except Failure α × World σ κ π

namespace Run

variable {σ κ π α β : Type}

instance : Monad (Run σ κ π) where
  pure a := ⟨fun w => (.ok a, w)⟩
  bind x f := ⟨fun w =>
    match x.run w with
    | (.ok a, w) => (f a).run w
    | (.error e, w) => (.error e, w)⟩

/-- Fails. -/
def fail (e : Failure) : Run σ κ π α := ⟨fun w => (.error e, w)⟩

/-- What needs no world. -/
def lift (r : Except Failure α) : Run σ κ π α := ⟨fun w => (r, w)⟩

instance : MonadLift (Except Failure) (Run σ κ π) := ⟨lift⟩

/-- The world as it is. -/
def world : Run σ κ π (World σ κ π) := ⟨fun w => (.ok w, w)⟩

/-- Changes the world. -/
def change (f : World σ κ π → World σ κ π) : Run σ κ π Unit := ⟨fun w => (.ok (), f w)⟩

/-- Runs without failing: the answer tells how the run ended. -/
def attempt (x : Run σ κ π α) : Run σ κ π (Except Failure α) := ⟨fun w => (.ok (x.run w).1, (x.run w).2)⟩

/-- Runs, and runs something else afterwards whether it failed or not. A failure of that counts more. -/
def ensure (x : Run σ κ π α) (after : Run σ κ π Unit) : Run σ κ π α := ⟨fun w =>
  match after.run (x.run w).2 with
  | (.ok _, v) => ((x.run w).1, v)
  | (.error e, v) => (.error e, v)⟩

/-! ## What runs do -/

/-- Calls the driver. -/
def call (f : Driver σ κ π → σ → Except Failure α × σ) : Run σ κ π α := ⟨fun w =>
  ((f w.registry.driver w.engine).1, { w with engine := (f w.registry.driver w.engine).2 })⟩

/-- Logs an event. -/
def log (n : Note) : Run σ κ π Unit := ⟨fun w =>
  match w.writes ⟨n, w.bound⟩ with
  | .ok () => (.ok (), { w with journal := w.journal ++ [⟨n, w.bound⟩] })
  | .error f => (.error (.broken f), w)⟩

/-- Logs several events in turn. -/
def logAll : List Note → Run σ κ π Unit
  | [] => pure ()
  | n :: ns => do
    log n
    logAll ns

/-- Runs with values bound for logging. -/
def binding (given : List (String × Value)) (x : Run σ κ π α) : Run σ κ π α := ⟨fun w =>
  let ended := x.run { w with bound := w.bound.enter given }
  (ended.1, { ended.2 with bound := ended.2.bound.leave given })⟩

/-- The registry as it is. -/
def registry : Run σ κ π (Registry σ κ π) := ⟨fun w => (.ok w.registry, w)⟩

/-- Changes the registry. -/
def changeRegistry (f : Registry σ κ π → Registry σ κ π) : Run σ κ π Unit :=
  change fun w => { w with registry := f w.registry }

/-- Runs to an outcome: an error is one, a fault leaves the run. -/
def settle (x : Run σ κ π α) : Run σ κ π (Outcome Error α) := ⟨fun w =>
  match Outcome.settle (x.run w).1 with
  | .ok r => (.ok r, (x.run w).2)
  | .error f => (.error (.broken f), (x.run w).2)⟩

/-! ## How runs are put together -/

@[simp] theorem run_pure (a : α) (w : World σ κ π) : (pure a : Run σ κ π α).run w = (.ok a, w) := rfl

theorem run_bind (x : Run σ κ π α) (f : α → Run σ κ π β) (w : World σ κ π) :
    (x >>= f).run w = match x.run w with
      | (.ok a, w) => (f a).run w
      | (.error e, w) => (.error e, w) := rfl

theorem run_bind_ok {x : Run σ κ π α} {f : α → Run σ κ π β} {w v : World σ κ π} {a : α} (h : x.run w = (.ok a, v)) :
    (x >>= f).run w = (f a).run v := by
  rw [run_bind, h]

theorem run_bind_error {x : Run σ κ π α} {f : α → Run σ κ π β} {w v : World σ κ π} {e : Failure}
    (h : x.run w = (.error e, v)) : (x >>= f).run w = (.error e, v) := by
  rw [run_bind, h]

/-- A run of two parts ends well only when both do. -/
theorem exists_of_run_bind_ok {x : Run σ κ π α} {f : α → Run σ κ π β} {w u : World σ κ π} {b : β}
    (h : (x >>= f).run w = (.ok b, u)) : ∃ a v, x.run w = (.ok a, v) ∧ (f a).run v = (.ok b, u) := by
  rw [run_bind] at h
  cases hx : x.run w with
  | mk r v =>
    rw [hx] at h
    cases r with
    | ok a => exact ⟨a, v, rfl, h⟩
    | error e => cases h

@[simp] theorem run_lift (r : Except Failure α) (w : World σ κ π) : (lift r : Run σ κ π α).run w = (r, w) := rfl

@[simp] theorem run_world (w : World σ κ π) : (world : Run σ κ π _).run w = (.ok w, w) := rfl

@[simp] theorem run_registry (w : World σ κ π) : (registry : Run σ κ π _).run w = (.ok w.registry, w) := rfl

@[simp] theorem run_change (f : World σ κ π → World σ κ π) (w : World σ κ π) : (change f).run w = (.ok (), f w) := rfl

@[simp] theorem run_changeRegistry (f : Registry σ κ π → Registry σ κ π) (w : World σ κ π) :
    (changeRegistry f).run w = (.ok (), { w with registry := f w.registry }) := rfl

@[simp] theorem run_attempt (x : Run σ κ π α) (w : World σ κ π) :
    (attempt x).run w = (.ok (x.run w).1, (x.run w).2) := rfl

theorem run_call {f : Driver σ κ π → σ → Except Failure α × σ} {w : World σ κ π} {r : Except Failure α} {s : σ}
    (h : f w.registry.driver w.engine = (r, s)) : (call f).run w = (r, { w with engine := s }) := by
  simp only [call, h]

theorem run_log {n : Note} {w : World σ κ π} (h : w.writes ⟨n, w.bound⟩ = .ok ()) :
    (log n).run w = (.ok (), { w with journal := w.journal ++ [⟨n, w.bound⟩] }) := by
  simp only [log, h]

theorem run_ensure_ok {x : Run σ κ π α} {after : Run σ κ π Unit} {w v : World σ κ π}
    (h : after.run (x.run w).2 = (.ok (), v)) : (ensure x after).run w = ((x.run w).1, v) := by
  simp only [ensure, h]

theorem run_binding {given : List (String × Value)} {x : Run σ κ π α} {w v : World σ κ π} {r : Except Failure α}
    (h : x.run { w with bound := w.bound.enter given } = (r, v)) :
    (binding given x).run w = (r, { v with bound := v.bound.leave given }) := by
  simp only [binding, h]

theorem bound_binding (given : List (String × Value)) (x : Run σ κ π α) (w : World σ κ π) :
    ((binding given x).run w).2.bound = (x.run { w with bound := w.bound.enter given }).2.bound.leave given := rfl

theorem run_settle_ok {x : Run σ κ π α} {w v : World σ κ π} {a : α} (h : x.run w = (.ok a, v)) :
    (settle x).run w = (.ok (.ok a), v) := by
  simp only [settle, h]
  rfl

theorem run_settle_refused {x : Run σ κ π α} {w v : World σ κ π} {e : Error}
    (h : x.run w = (.error (.refused e), v)) : (settle x).run w = (.ok (.error e), v) := by
  simp only [settle, h]
  rfl

theorem run_settle_broken {x : Run σ κ π α} {w v : World σ κ π} {f : Fault}
    (h : x.run w = (.error (.broken f), v)) : (settle x).run w = (.error (.broken f), v) := by
  simp only [settle, h]
  rfl

theorem settle_not_refused (x : Run σ κ π α) (w : World σ κ π) (e : Error) :
    ((settle x).run w).1 ≠ .error (.refused e) := by
  simp only [settle]
  split <;> simp

end Run

end TableGateway
