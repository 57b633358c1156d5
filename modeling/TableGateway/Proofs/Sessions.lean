import TableGateway.Proofs.Openings

/-!
# Sessions

A session is a run of calls on one registry, from the moment at which nothing is registered yet: any calls, in any
order, through any gateways, however the driver answers each. `Session d steps w` says that the calls of `steps`, the
latest first, lead to the world `w`.

- **`nothing_lost`**: after every call, each connection and each pool that was made is held by exactly one entry, or
  was closed exactly once; and no entry was opened twice.
-/

namespace TableGateway

variable {σ κ π : Type} {d : Driver σ κ π}

/-- A call of a session: what was asked, what the driver was asked for it, and the registry afterwards. -/
structure Step (σ κ π : Type) where
  call : Call
  made : List Exchange
  after : Registry (Recorded σ) (Numbered κ) (Numbered π)

namespace Step

/-- The call made through a gateway in a world. -/
def of (g : Gateway) (c : Call) (w : RecordedWorld σ κ π) : Step σ κ π where
  call := c
  made := RecordedWorld.record ((c.run g).run w).2 |>.drop w.record.length
  after := ((c.run g).run w).2.registry

/-- How many connections the call opened. -/
def openings (s : Step σ κ π) : Nat := (s.made.filterMap Exchange.opened?).length

/-- After the call, the entry of `i` is closed or not registered. -/
def ends (i : Value) (s : Step σ κ π) : Bool := !s.after.entries.has i || s.call.closes i

end Step

/-- How many connections were opened for the entry of `i` since it was registered and last closed: all that were
opened in calls on no other entry. -/
def openedFor (i : Value) : List (Step σ κ π) → Nat
  | [] => 0
  | s :: earlier =>
    if s.ends i then 0 else (if s.call.elsewhere i then 0 else s.openings) + openedFor i earlier

/-- The steps, the latest first, lead from an empty registry to the world. Between calls everything may change but the
registry and the record. -/
inductive Session (d : Driver σ κ π) : List (Step σ κ π) → RecordedWorld σ κ π → Prop
  | start {w : RecordedWorld σ κ π} (ready : w.Ready d) (entries : w.registry.entries = {}) (record : w.record = []) :
    Session d [] w
  | call {steps : List (Step σ κ π)} {w : RecordedWorld σ κ π} (s : Session d steps w) (g : Gateway) (c : Call) :
    Session d (.of g c w :: steps) ((c.run g).run w).2
  | aside {steps : List (Step σ κ π)} {w v : RecordedWorld σ κ π} (s : Session d steps w) (ready : v.Ready d)
    (registry : v.registry = w.registry) (record : v.record = w.record) : Session d steps v

namespace Session

variable {steps : List (Step σ κ π)} {w : RecordedWorld σ κ π}

theorem accounted (s : Session d steps w) : Accounted d [] [] w := by
  induction s with
  | @start w ready entries record =>
    have live : w.registry.live = [] := by rw [Registry.live, entries]; rfl
    have held : w.registry.held = [] := by rw [Registry.held, entries]; rfl
    refine ⟨ready, ?_, ?_, ?_, ?_, ?_⟩
    · rw [entries]; exact Keyed.distinct_nil
    · rw [entries]; exact fun e he => by cases he
    · rw [record, live]; exact .nil
    · rw [record, held]; exact .nil
    · rw [live]; exact fun n hn => by cases hn
  | call s g c ih => exact keeps_call g c _ ih
  | aside s ready registry record ih => exact ih.same ready registry record

/-- The record of a call goes on with what the call made. -/
theorem record_call (h : w.Ready d) (g : Gateway) (c : Call) :
    RecordedWorld.record ((c.run g).run w).2 = w.record ++ (Step.of g c w).made := by
  obtain ⟨_, made, grown⟩ := grows_run g c w h
  rw [Step.of, ← grown, List.drop_left]

/-- Whatever was opened for an entry since it was closed last, the entry holds. -/
theorem openedFor_le (s : Session d steps w) (i : Value) : openedFor i steps ≤ w.holding i := by
  induction s with
  | start => exact Nat.zero_le _
  | @call steps w s g c ih =>
    have ready := s.accounted.toReady
    have opened : RecordedWorld.openings ((c.run g).run w).2 = w.openings + (Step.of g c w).openings := by
      rw [RecordedWorld.openings, record_call ready, List.filterMap_append, List.length_append]
      rfl
    rw [openedFor]
    split
    · -- closed or gone: counting starts anew
      exact Nat.zero_le _
    · next goesOn =>
      simp only [Step.ends, Bool.or_eq_true, Bool.not_eq_true', not_or, Bool.not_eq_false, Bool.not_eq_true] at goesOn
      obtain ⟨registered, stays⟩ := goesOn
      split
      · -- a call elsewhere does not count, and leaves the entry alone
        next other =>
        have same := (Call.spares_run g (c := c) other w).holding
        omega
      · -- what a call on the entry opens, the entry holds afterwards
        next here =>
        have mine : c.elsewhere i = false := eq_false_of_ne_true here
        have spent := Call.spends_run g s.accounted rfl registered mine stays
        omega
  | @aside steps w v s _ registry _ ih =>
    have same : v.holding i = w.holding i := by
      unfold RecordedWorld.holding
      rw [registry]
    omega

/-- The steps of calls through one gateway, the latest first, and the world that they lead to. -/
def calls (g : Gateway) (w : RecordedWorld σ κ π) : List Call → List (Step σ κ π) × RecordedWorld σ κ π
  | [] => ([], w)
  | c :: earlier => (.of g c (calls g w earlier).2 :: (calls g w earlier).1, ((c.run g).run (calls g w earlier).2).2)

theorem of_calls (g : Gateway) {w : RecordedWorld σ κ π} (start : Session d [] w) (cs : List Call) :
    Session d (calls g w cs).1 (calls g w cs).2 := by
  induction cs with
  | nil => exact start
  | cons c cs ih => exact ih.call g c

/-- Connections that were opened and connections that were acquired are told apart by their numbers. -/
theorem not_opened_of_acquired (s : Session d steps w) {n : Nat}
    (acquired : n ∈ w.record.filterMap Exchange.acquired?) :
    n ∉ w.record.filterMap Exchange.opened? := by
  have once := (Exchange.perm_conn w.record).nodup_iff.1 s.accounted.conn.nodup
  exact fun opened => (List.nodup_append.1 once).2.2 n opened n acquired rfl

/-- **Nothing is lost.** After every call of a session,

1. each connection that was opened was closed exactly once, or is held by exactly one entry and was never closed;
2. each pool that was made was disposed of exactly once, or is held by exactly one entry and was never disposed of;
3. each connection that was acquired from a pool was closed exactly once;
4. for no entry a second connection was opened before the entry was closed. -/
theorem nothing_lost (s : Session d steps w) :
    (∀ n ∈ w.record.filterMap Exchange.opened?,
      ((w.record.filterMap Exchange.closed?).count n = 1 ∧ w.registry.live.count n = 0) ∨
      ((w.record.filterMap Exchange.closed?).count n = 0 ∧ w.registry.live.count n = 1)) ∧
    (∀ n ∈ w.record.filterMap Exchange.pool?,
      ((w.record.filterMap Exchange.disposed?).count n = 1 ∧ w.registry.held.count n = 0) ∨
      ((w.record.filterMap Exchange.disposed?).count n = 0 ∧ w.registry.held.count n = 1)) ∧
    (∀ n ∈ w.record.filterMap Exchange.acquired?, (w.record.filterMap Exchange.closed?).count n = 1) ∧
    ∀ i, openedFor i steps ≤ 1 := by
  have h := s.accounted
  refine ⟨fun n opened => ?_, fun n made => h.pool.gone_or_out made, fun n acquired => ?_, fun i => ?_⟩
  · obtain ⟨x, hx, opens⟩ := List.mem_filterMap.1 opened
    exact h.conn.gone_or_out (List.mem_filterMap.2 ⟨x, hx, Exchange.conn?_of_opened? opens⟩)
  · obtain ⟨x, hx, acquires⟩ := List.mem_filterMap.1 acquired
    have made := List.mem_filterMap.2 ⟨x, hx, Exchange.conn?_of_acquired? acquires⟩
    rcases h.conn.gone_or_out made with ⟨closed, _⟩ | ⟨_, held⟩
    · exact closed
    · -- entries hold opened connections alone
      have live : n ∈ w.registry.live := List.count_pos_iff.1 (held ▸ Nat.one_pos)
      exact absurd (h.opened n live) (s.not_opened_of_acquired acquired)
  · exact Nat.le_trans (s.openedFor_le i) (RecordedWorld.holding_le i w)

end Session

/-! ## A session with a driver that will not let go -/

/-- A driver that does all that it is asked but to close a connection. -/
def Driver.clinging : Driver Unit Unit Unit :=
  .steady (.ok ()) (.ok []) (.error (.refused (Error.engine "still in use" "58004")))

namespace Session

/-- Two statements under one identity and one under another, which has a pool: the latest call first. -/
def someCalls : List Call :=
  [.execute (.text "pooled") ⟨"SELECT 1", []⟩ .null, .execute (.text "kept") ⟨"SELECT 1", []⟩ .null,
    .execute (.text "kept") ⟨"SELECT 1", []⟩ .null,
    .registerConnection (.built { identity := .text "pooled", pool := .bool true }) (.value .null),
    .registerConnection (.built { identity := .text "kept" }) (.value .null)]

def clung : List (Step Unit Unit Unit) × RecordedWorld Unit Unit Unit :=
  calls {} { engine := { engine := () }, registry := { driver := Driver.clinging.recorded } } someCalls

/-- One connection is opened and stays; another is taken out of the pool and closed, in vain. -/
theorem nothing_lost_clung :
    (1 ∈ clung.2.record.filterMap Exchange.opened? ∧
      (((clung.2.record.filterMap Exchange.closed?).count 1 = 1 ∧ clung.2.registry.live.count 1 = 0) ∨
      ((clung.2.record.filterMap Exchange.closed?).count 1 = 0 ∧ clung.2.registry.live.count 1 = 1))) ∧
    (4 ∈ clung.2.record.filterMap Exchange.acquired? ∧ (clung.2.record.filterMap Exchange.closed?).count 4 = 1) ∧
    (openedFor (.text "kept") clung.1 = 1 ∧ ∀ i, openedFor i clung.1 ≤ 1) := by
  have start : Session Driver.clinging []
      { engine := { engine := () }, registry := { driver := Driver.clinging.recorded } } :=
    .start ⟨rfl, fun _ _ _ => rfl⟩ rfl rfl
  obtain ⟨opened, _, acquired, single⟩ := nothing_lost (of_calls {} start someCalls)
  have one : 1 ∈ clung.2.record.filterMap Exchange.opened? := by decide
  have four : 4 ∈ clung.2.record.filterMap Exchange.acquired? := by decide
  exact ⟨⟨one, opened 1 one⟩, ⟨four, acquired 4 four⟩, by decide, single⟩

end Session

end TableGateway
