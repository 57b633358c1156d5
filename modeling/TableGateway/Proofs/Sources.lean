import TableGateway.Proofs.Recorded

/-!
# What a call was made with

The record of a driver tells for every connection and every pool with which connection string it was made, and so with
which one a call is made on it. What was told once stays so as the record grows. `Uses cs w v` says that from one world
to the other the driver was called with `cs` alone, while the registry stayed as it was.

- **`connSource_append`**, **`source?_append`**: what the record tells stays;
- **`uses_runOn`**, **`uses_pooled`**: a statement uses what its connection was made with, in or out of a pool;
- **`uses_closeHeld`**, **`uses_poolOf`**: closing what an entry holds and making its pool use the connection string of
  the entry.
-/

namespace TableGateway

variable {σ κ π α : Type} {d : Driver σ κ π} {cs : String}

/-! ## Told by the record -/

/-- The connection string with which a pool was made. -/
def poolSource (xs : List Exchange) (pool : Nat) : Option String :=
  match xs[pool]? with
  | some (.createPool cs _) => some cs
  | _ => none

/-- The connection string with which a connection was opened, or the pool was made that it was taken from. -/
def connSource (xs : List Exchange) (conn : Nat) : Option String :=
  match xs[conn]? with
  | some (.connect cs _) => some cs
  | some (.acquire pool _) => poolSource xs pool
  | _ => none

/-- The connection string that a call was made with: its own, or that of its connection or its pool. -/
def Exchange.source? (xs : List Exchange) : Exchange → Option String
  | .connect cs _ | .createPool cs _ => some cs
  | .acquire pool _ | .dispose pool _ => poolSource xs pool
  | .query conn .. | .close conn _ => connSource xs conn

section Growing

variable {xs : List Exchange}

theorem getElem?_append_of_some {n : Nat} {x : Exchange} (ys : List Exchange) (h : xs[n]? = some x) :
    (xs ++ ys)[n]? = some x := by
  obtain ⟨inside, _⟩ := List.getElem?_eq_some_iff.1 h
  rw [List.getElem?_append_left inside]
  exact h

theorem poolSource_append {n : Nat} (ys : List Exchange) (h : poolSource xs n = some cs) :
    poolSource (xs ++ ys) n = some cs := by
  unfold poolSource at h ⊢
  cases found : xs[n]? with
  | none => rw [found] at h; cases h
  | some x =>
    rw [found] at h
    rw [getElem?_append_of_some ys found]
    exact h

theorem connSource_append {n : Nat} (ys : List Exchange) (h : connSource xs n = some cs) :
    connSource (xs ++ ys) n = some cs := by
  unfold connSource at h ⊢
  cases found : xs[n]? with
  | none => rw [found] at h; cases h
  | some x =>
    rw [found] at h
    rw [getElem?_append_of_some ys found]
    cases x with
    | acquire pool _ => exact poolSource_append ys h
    | _ => exact h

theorem source?_append {x : Exchange} (ys : List Exchange) (h : x.source? xs = some cs) :
    x.source? (xs ++ ys) = some cs := by
  cases x with
  | connect | createPool => exact h
  | acquire | dispose => exact poolSource_append ys h
  | query | close => exact connSource_append ys h

/-- What the last call of a record has made. -/
theorem getElem?_last (xs : List Exchange) (x : Exchange) : (xs ++ [x])[xs.length]? = some x := by
  rw [List.getElem?_append_right (Nat.le_refl _), Nat.sub_self]
  rfl

theorem poolSource_made (xs : List Exchange) (answer : Except Failure Nat) :
    poolSource (xs ++ [.createPool cs answer]) xs.length = some cs := by
  rw [poolSource, getElem?_last]

theorem connSource_opened (xs : List Exchange) (answer : Except Failure Nat) :
    connSource (xs ++ [.connect cs answer]) xs.length = some cs := by
  rw [connSource, getElem?_last]

theorem connSource_acquired {pool : Nat} (answer : Except Failure Nat) (h : poolSource xs pool = some cs) :
    connSource (xs ++ [.acquire pool answer]) xs.length = some cs := by
  rw [connSource, getElem?_last]
  exact poolSource_append _ h

end Growing

/-! ## Calls with one connection string -/

/-- The driver was called with this connection string alone, and the registry stayed as it was. -/
structure Uses (cs : String) (w v : RecordedWorld σ κ π) : Prop where
  grown : ∃ xs, v.record = w.record ++ xs ∧ ∀ x ∈ xs, x.source? v.record = some cs
  registry : v.registry = w.registry
  writes : v.writes = w.writes

namespace Uses

variable {u v w : RecordedWorld σ κ π}

theorem of_alike (a : w.Alike v) : Uses cs w v where
  grown := ⟨[], by rw [List.append_nil, RecordedWorld.record_alike a], fun x hx => by cases hx⟩
  registry := a.registry
  writes := a.writes

theorem of_adds {x : Exchange} (a : w.Adds x v) (source : x.source? v.record = some cs) : Uses cs w v where
  grown := by
    refine ⟨[x], a.record, ?_⟩
    intro y hy
    rw [List.mem_singleton.1 hy]
    exact source
  registry := a.registry
  writes := a.writes

theorem trans (h : Uses cs u v) (g : Uses cs v w) : Uses cs u w where
  grown := by
    obtain ⟨xs, first, sources⟩ := h.grown
    obtain ⟨ys, second, sources'⟩ := g.grown
    refine ⟨xs ++ ys, by rw [second, first, List.append_assoc], ?_⟩
    intro x hx
    rcases List.mem_append.1 hx with early | late
    · rw [second]
      exact source?_append ys (sources x early)
    · exact sources' x late
  registry := g.registry.trans h.registry
  writes := g.writes.trans h.writes

theorem ready (h : Uses cs w v) (r : w.Ready d) : v.Ready d :=
  ⟨by rw [h.registry]; exact r.driver, fun n hn b => by rw [h.writes]; exact r.written n hn b⟩

/-- What the record tells stays told. -/
theorem connSource (h : Uses cs w v) {n : Nat} {s : String} (told : connSource w.record n = some s) :
    TableGateway.connSource v.record n = some s := by
  obtain ⟨xs, grown, _⟩ := h.grown
  rw [grown]
  exact connSource_append xs told

theorem poolSource (h : Uses cs w v) {n : Nat} {s : String} (told : poolSource w.record n = some s) :
    TableGateway.poolSource v.record n = some s := by
  obtain ⟨xs, grown, _⟩ := h.grown
  rw [grown]
  exact poolSource_append xs told

end Uses

/-- The driver is called with this connection string alone as long as something is known of the record. -/
def UsesWhile (d : Driver σ κ π) (cs : String) (known : List Exchange → Prop) (w v : RecordedWorld σ κ π) : Prop :=
  w.Ready d → known w.record → Uses cs w v

theorem follows_usesWhile (d : Driver σ κ π) (cs : String) {known : List Exchange → Prop}
    (stays : ∀ xs ys, known xs → known (xs ++ ys)) : Follows (UsesWhile d cs known) where
  alike a _ _ := .of_alike a
  trans first second ready told := by
    have early := first ready told
    obtain ⟨xs, grown, _⟩ := early.grown
    exact early.trans (second (early.ready ready) (by rw [grown]; exact stays _ xs told))

/-! ## Statements -/

namespace Dispatcher

variable {dp : Dispatcher} {s : Statement} {w : RecordedWorld σ κ π}

/-- A statement is sent with the connection string of its connection. -/
theorem uses_runOn {c : Numbered κ} (ready : w.Ready d) (made : connSource w.record c.number = some cs) :
    Uses cs w ((dp.runOn s c).run w).2 := by
  have follows : Follows (UsesWhile d cs fun xs => connSource xs c.number = some cs) :=
    follows_usesWhile d cs fun _ ys told => connSource_append ys told
  refine Run.leads_bind follows ((quiet_announce dp s).leads follows) (fun _ v ready told => ?_) w ready made
  obtain ⟨answer, u, run, adds⟩ := call_query ready.driver c s.sql (valuesOf s)
  rw [run]
  apply Uses.of_adds adds
  rw [adds.record]
  exact connSource_append _ told

/-- A connection is taken out of a pool, used and given back with the connection string of the pool. -/
theorem uses_pooled {p : Numbered π} (ready : w.Ready d) (made : poolSource w.record p.number = some cs) :
    Uses cs w ((do
      let c ← Run.call fun d => d.acquire p
      Run.ensure (dp.runOn s c) (Run.call fun d => d.close c) : Run _ _ _ _).run w).2 := by
  obtain ⟨r, v, run, adds⟩ := call_acquire ready.driver p
  have acquired : Uses cs w v := by
    apply Uses.of_adds adds
    rw [adds.record]
    exact poolSource_append _ made
  cases r with
  | error f =>
    rw [Run.run_bind_error run]
    exact acquired
  | ok c =>
    have lent : connSource v.record w.record.length = some cs := by
      rw [adds.record]
      exact connSource_acquired _ made
    have ran : Uses cs v ((dp.runOn s ⟨w.record.length, c⟩).run v).2 := uses_runOn (acquired.ready ready) lent
    obtain ⟨_, u, closing, closes⟩ := call_close ((acquired.trans ran).ready ready).driver ⟨w.record.length, c⟩
    have closed : Uses cs ((dp.runOn s ⟨w.record.length, c⟩).run v).2 u := by
      apply Uses.of_adds closes
      rw [closes.record]
      exact connSource_append _ (ran.connSource lent)
    rw [Run.run_bind_ok run, Run.snd_ensure, closing]
    exact (acquired.trans ran).trans closed

end Dispatcher

/-! ## Closing -/

/-- What the entry holds was made with its connection string. -/
structure Entry.Sourced (xs : List Exchange) (e : Entry (Numbered κ) (Numbered π)) : Prop where
  conn : ∀ c, e.conn = some c → connSource xs c.number = some e.connectionString
  pool : ∀ p, e.pool = some p → poolSource xs p.number = some e.connectionString

theorem Entry.Sourced.append {xs : List Exchange} {e : Entry (Numbered κ) (Numbered π)} (h : e.Sourced xs)
    (ys : List Exchange) : e.Sourced (xs ++ ys) where
  conn c held := connSource_append ys (h.conn c held)
  pool p held := poolSource_append ys (h.pool p held)

namespace Registry

variable {e : Entry (Numbered κ) (Numbered π)} {w : RecordedWorld σ κ π}

/-- Whatever an entry held is closed with the connection string of the entry. -/
theorem uses_closeHeld (ready : w.Ready d) (sourced : e.Sourced w.record) :
    Uses e.connectionString w ((closeHeld e).run w).2 := by
  have follows : Follows (UsesWhile d e.connectionString e.Sourced) :=
    follows_usesWhile d e.connectionString fun _ ys known => known.append ys
  refine leads_closeHeld_of follows ?_ ?_ w ready sourced
  · intro c held v ready sourced
    obtain ⟨r, u, run, adds⟩ := call_close ready.driver c
    rw [run]
    apply Uses.of_adds adds
    rw [adds.record]
    exact connSource_append _ (sourced.conn c held)
  · intro p held v ready sourced
    obtain ⟨r, u, run, adds⟩ := call_dispose ready.driver p
    rw [run]
    apply Uses.of_adds adds
    rw [adds.record]
    exact poolSource_append _ (sourced.pool p held)

theorem uses_closeRemoved (identity : Value) (ready : w.Ready d) (sourced : e.Sourced w.record) :
    Uses e.connectionString w ((closeRemoved identity e).run w).2 :=
  (uses_closeHeld ready sourced).trans (.of_alike (alike_closeRemoved identity e w))

/-- The pool of a configuration is made with its connection string. -/
theorem uses_poolOf (ready : w.Ready d) (c : Config) :
    ∃ r, ∃ v : RecordedWorld σ κ π, (poolOf c).run w = (r, v) ∧ Uses c.connectionString w v ∧
      ∀ p, r = .ok (some p) → poolSource v.record p.number = some c.connectionString := by
  obtain ⟨_, run⟩ | ⟨_, r, v, run, adds⟩ := run_poolOf ready.driver c
  · refine ⟨_, w, run, .of_alike (.refl w), ?_⟩
    intro p same
    cases same
  · refine ⟨_, v, run, Uses.of_adds adds rfl, ?_⟩
    intro p same
    cases r with
    | error f => cases same
    | ok q =>
      cases same
      rw [adds.record]
      exact poolSource_made _ _

end Registry

end TableGateway
