import TableGateway.Proofs.Custody

/-!
# Openings

How often a call opens a connection for an entry, against what the entry holds before and after: a call opens at most
one, which the entry keeps, and only when it holds none (`Spends`). A call on another entry leaves the entry alone, and
a teardown opens nothing and leaves an entry as it was or takes it away.

- **`grows_run`**: a call only adds to the record.
- **`spends_run`**: what a call that may be on the entry opens.
- **`spares_run`**: what a call on another entry leaves alone.
-/

namespace TableGateway

variable {σ κ π α : Type} {d : Driver σ κ π} {i : Value}

namespace RecordedWorld

variable {w v u : RecordedWorld σ κ π} {x : Exchange}

/-- How many connections were opened. -/
def openings (w : RecordedWorld σ κ π) : Nat := (w.record.filterMap Exchange.opened?).length

/-- How many connections the entry of `i` holds: one or none. -/
def holding (i : Value) (w : RecordedWorld σ κ π) : Nat :=
  match w.registry.entries.lookup i with
  | some e => e.connNumbers.length
  | none => 0

theorem holding_le (i : Value) (w : RecordedWorld σ κ π) : w.holding i ≤ 1 := by
  unfold holding
  split
  · next e _ => cases h : e.conn <;> simp [Entry.connNumbers, h]
  · omega

theorem Adds.openings (a : w.Adds x v) : v.openings = w.openings + x.opened?.toList.length := by
  unfold RecordedWorld.openings
  rw [a.record, List.filterMap_append, List.length_append]
  cases opened : x.opened? <;> simp [opened]

theorem Adds.holding (a : w.Adds x v) (i : Value) : v.holding i = w.holding i := by
  unfold RecordedWorld.holding
  rw [a.registry]

theorem openings_alike (a : w.Alike v) : v.openings = w.openings := by
  unfold openings
  rw [record_alike a]

theorem holding_alike (a : w.Alike v) (i : Value) : v.holding i = w.holding i := by
  unfold holding
  rw [a.registry]

/-- What the entry of `i` holds once an entry was put into the registry. -/
theorem holding_update (w : RecordedWorld σ κ π) (i j : Value) (e : Entry (Numbered κ) (Numbered π)) :
    holding i { w with registry := w.registry.update j e } =
      if i.same j then e.connNumbers.length else w.holding i := by
  unfold holding Registry.update
  dsimp only
  rw [Keyed.lookup_put]
  by_cases same : i.same j = true
  · rw [if_pos same, if_pos same]
  · rw [if_neg same, if_neg same]

end RecordedWorld

open RecordedWorld

/-- What bears an exchange that opens nothing holds across the calls to a recorded driver. -/
theorem followsCalls_of_adds {R : RecordedWorld σ κ π → RecordedWorld σ κ π → Prop}
    (bears : ∀ {w v x}, w.Adds x v → x.opened? = none → Ready d w → R w v) :
    FollowsCalls fun w v => Ready d w → R w v where
  createPool cs w h := by
    obtain ⟨r, v, run, adds⟩ := call_createPool h.driver cs
    rw [run]
    exact bears adds rfl h
  acquire p w h := by
    obtain ⟨r, v, run, adds⟩ := call_acquire h.driver p
    rw [run]
    exact bears adds rfl h
  query c sql params w h := by
    obtain ⟨r, v, run, adds⟩ := call_query h.driver c sql params
    rw [run]
    exact bears adds rfl h
  close c w h := by
    obtain ⟨r, v, run, adds⟩ := call_close h.driver c
    rw [run]
    exact bears adds rfl h
  dispose p w h := by
    obtain ⟨r, v, run, adds⟩ := call_dispose h.driver p
    rw [run]
    exact bears adds rfl h

/-! ## The record grows -/

/-- The record of the first world begins that of the second. -/
def Grows (d : Driver σ κ π) (w v : RecordedWorld σ κ π) : Prop := Ready d w → Ready d v ∧ w.record <+: v.record

theorem follows_grows : Follows (Grows d) := by
  refine ⟨fun a h => ⟨h.alike a, [], ?_⟩, fun first second h => ?_⟩
  · rw [List.append_nil, record_alike a]
  · obtain ⟨ready, grown⟩ := first h
    obtain ⟨ready, grown'⟩ := second ready
    exact ⟨ready, grown.trans grown'⟩

theorem grows_adds {w v : RecordedWorld σ κ π} {x : Exchange} (a : w.Adds x v) : Grows d w v :=
  fun h => ⟨h.adds a, ⟨[x], a.record.symm⟩⟩

/-- A call only adds to the record. -/
theorem grows_run (g : Gateway) (c : Call) : Run.Leads (Grows d) (c.run g) := by
  refine Call.leads_run follows_grows (followsCalls_of_adds fun a _ => grows_adds a) (fun cs w h => ?_) ?_ g c
  · obtain ⟨r, v, run, adds⟩ := call_connect h.driver cs
    rw [run]
    exact grows_adds adds h
  · exact fun _ still w h => ⟨⟨(still w.registry).trans h.driver, h.written⟩, List.prefix_rfl⟩

/-! ## What a call opens -/

/-- What was opened from the first world to the second is held by the entry of `i` in the end, and was not before. -/
def Spends (d : Driver σ κ π) (i : Value) (w v : RecordedWorld σ κ π) : Prop :=
  Ready d w → Ready d v ∧ v.openings + w.holding i ≤ w.openings + v.holding i

theorem follows_spends : Follows (Spends d i) := by
  refine ⟨fun a h => ⟨h.alike a, ?_⟩, fun first second h => ?_⟩
  · have opened := openings_alike a
    have held := holding_alike a i
    omega
  · obtain ⟨ready, le⟩ := first h
    obtain ⟨ready, le'⟩ := second ready
    exact ⟨ready, by omega⟩

theorem spends_adds {w v : RecordedWorld σ κ π} {x : Exchange} (a : w.Adds x v) (none : x.opened? = none) :
    Spends d i w v := by
  refine fun h => ⟨h.adds a, ?_⟩
  rw [a.openings, a.holding, none]
  exact Nat.le_refl _

theorem followsCalls_spends : FollowsCalls (Spends (κ := κ) (π := π) d i) := followsCalls_of_adds spends_adds

namespace Dispatcher

variable {identity : Value} {e : Entry (Numbered κ) (Numbered π)} {w : RecordedWorld σ κ π}

/-- A connection is opened for an entry that holds none, and the entry keeps it. -/
theorem spends_openKept (found : w.registry.entries.lookup identity = some e) (noConn : e.conn = none)
    (mine : i.same identity = true) : Spends d i w ((openKept identity e).run w).2 := by
  intro h
  obtain ⟨r, v, adds, run⟩ := run_openKept h identity e
  cases r with
  | error f =>
    rw [show (openKept identity e).run w = (.error f, v) from run]
    exact spends_adds adds rfl h
  | ok c =>
    obtain ⟨q, u, run, _, same⟩ := run
    have before : w.holding i = 0 := by
      unfold holding
      rw [Keyed.lookup_congr mine, found]
      show e.connNumbers.length = 0
      rw [Entry.connNumbers, noConn]
      rfl
    have kept : Spends d i w
        { v with registry := v.registry.update identity { e with conn := some ⟨w.record.length, c⟩ } } := by
      refine fun _ => ⟨(h.adds adds).update identity _, ?_⟩
      rw [holding_update, if_pos mine, before]
      exact Nat.le_of_eq adds.openings
    rw [run]
    exact follows_spends.trans kept (follows_spends.alike same) h

theorem spends_execute {dp : Dispatcher} {s : Statement} {schemaName : Value} (mine : i.same identity = true) :
    Run.Leads (Spends d i) (dp.execute identity s schemaName : Run _ _ (Numbered π) _) := by
  refine leads_execute follows_spends fun w e found => ?_
  refine leads_withConnection follows_spends followsCalls_spends fun noConn => ?_
  exact spends_openKept (Registry.lookup_of_resolve found) noConn mine

end Dispatcher

namespace Registry

theorem spends_addSchema (identity name : Value) (s : Registered) :
    Run.Leads (Spends d i) (addSchema identity name s : Run _ (Numbered κ) (Numbered π) _) := by
  refine leads_addSchema follows_spends fun w e found h => ⟨h.update identity _, ?_⟩
  have held := lookup_of_resolve found
  have still : (if i.same identity then (e.addSchema name s).connNumbers.length else holding i w) = holding i w := by
    split
    · next mine =>
      unfold holding
      rw [Keyed.lookup_congr mine, held]
      rfl
    · rfl
  rw [holding_update, still]
  exact Nat.le_refl _

/-- A new entry holds no connection, and there was none before. -/
theorem spends_register (given : ConfigGiven) (schemas : Description) :
    Run.Leads (Spends d i) (register given schemas : Run _ (Numbered κ) (Numbered π) _) := by
  refine leads_register follows_spends followsCalls_spends (fun w c ss pool absent h => ?_) given schemas
  refine ⟨h.update c.identity _, ?_⟩
  rw [holding_update]
  split
  · next mine =>
    have before : holding i w = 0 := by
      unfold holding
      rw [Keyed.lookup_congr mine, absent]
    rw [before]
    exact Nat.le_add_right _ _
  · exact Nat.le_refl _

end Registry

/-! ## Calls on other entries -/

/-- The entry of `i` is the same in both worlds. -/
def Spares (i : Value) (w v : World σ κ π) : Prop := v.registry.entries.lookup i = w.registry.entries.lookup i

theorem follows_spares : Follows (Spares (σ := σ) (κ := κ) (π := π) i) :=
  ⟨fun a => by rw [Spares, a.registry], fun h g => g.trans h⟩

theorem followsCalls_spares : FollowsCalls (Spares (σ := σ) (κ := κ) (π := π) i) :=
  .of_registry fun same => by rw [Spares, same]

theorem spares_update (w : World σ κ π) {j : Value} (e : Entry κ π) (other : i.same j = false) :
    Spares i w { w with registry := w.registry.update j e } :=
  Registry.entries_update other

theorem Spares.holding {w v : RecordedWorld σ κ π} (h : Spares i w v) : v.holding i = w.holding i := by
  unfold RecordedWorld.holding
  rw [h]

namespace Call

/-- Is the call about another entry than that of `i`? A registration and a teardown may be about any. -/
def elsewhere (i : Value) : Call → Bool
  | .closeEntry j | .addSchema j .. | .execute j .. | .operate j .. => !i.same j
  | .registerConnection .. | .teardown _ | .tearDownEntries _ => false

/-- Does the call close the entry of `i`, which stays? -/
def closes (i : Value) : Call → Bool
  | .closeEntry j => i.same j
  | _ => false

/-- A call on another entry leaves the entry alone. -/
theorem spares_run (g : Gateway) {c : Call} (other : c.elsewhere i = true) :
    Run.Leads (Spares (σ := σ) (κ := κ) (π := π) i) (c.run g) := by
  have added {j : Value} (name : Value) (s : Registered) (other : i.same j = false) :
      Run.Leads (Spares (σ := σ) (κ := κ) (π := π) i) (Registry.addSchema j name s) :=
    Registry.leads_addSchema follows_spares fun w e _ => spares_update w _ other
  have executed {j : Value} (s : Statement) (schemaName : Value) (other : i.same j = false) :
      Run.Leads (Spares (σ := σ) (κ := κ) (π := π) i) (g.dispatcher.execute j s schemaName) := by
    refine Dispatcher.leads_execute follows_spares fun w e _ => ?_
    refine Dispatcher.leads_withConnection follows_spares followsCalls_spares fun _ => ?_
    exact Dispatcher.leads_openKept follows_spares (fun _ _ => rfl) (fun v c => spares_update v _ other) w
  cases c with
  | registerConnection | teardown | tearDownEntries => cases other
  | closeEntry j =>
    have apart : i.same j = false := by simpa [elsewhere] using other
    exact Registry.leads_closeEntry follows_spares followsCalls_spares fun w e _ => spares_update w _ apart
  | addSchema j name s => exact added name s (by simpa [elsewhere] using other)
  | execute j s schemaName =>
    have apart : i.same j = false := by simpa [elsewhere] using other
    exact Run.leads_dropped follows_spares (executed s schemaName apart)
  | operate j schemaName o =>
    have apart : i.same j = false := by simpa [elsewhere] using other
    refine Run.leads_dropped follows_spares ?_
    refine Gateway.leads_perform follows_spares (fun st => executed st schemaName apart) (fun s => ?_) o
    exact added schemaName s apart

end Call

/-! ## Teardowns -/

/-- Nothing is opened, and the entry of `i` is as it was or gone. -/
def Leaves (d : Driver σ κ π) (i : Value) (w v : RecordedWorld σ κ π) : Prop :=
  Ready d w → w.registry.entries.Distinct → Ready d v ∧ v.registry.entries.Distinct ∧ v.openings = w.openings ∧
    (v.registry.entries.lookup i = none ∨ v.registry.entries.lookup i = w.registry.entries.lookup i)

theorem follows_leaves : Follows (Leaves d i) := by
  refine ⟨fun a h keys => ⟨h.alike a, by rw [a.registry]; exact keys, openings_alike a, ?_⟩, ?_⟩
  · rw [a.registry]
    exact Or.inr rfl
  · intro u v w first second h keys
    obtain ⟨ready, keys, opened, left⟩ := first h keys
    obtain ⟨ready, keys, opened', left'⟩ := second ready keys
    refine ⟨ready, keys, opened'.trans opened, ?_⟩
    rcases left' with gone | same
    · exact Or.inl gone
    · rw [same]
      exact left

theorem leaves_adds {w v : RecordedWorld σ κ π} {x : Exchange} (a : w.Adds x v) (none : x.opened? = none) :
    Leaves d i w v := by
  refine fun h keys => ⟨h.adds a, by rw [a.registry]; exact keys, ?_, by rw [a.registry]; exact Or.inr rfl⟩
  rw [a.openings, none]
  rfl

namespace Registry

theorem leaves_closeRemoved (identity : Value) (e : Entry (Numbered κ) (Numbered π)) :
    Run.Leads (Leaves d i) (closeRemoved identity e) := by
  intro w
  have closed : Leaves d i w ((closeHeld e).run w).2 :=
    leads_closeHeld follows_leaves (followsCalls_of_adds leaves_adds) w
  exact follows_leaves.trans closed (follows_leaves.alike (alike_closeRemoved identity e w))

theorem leaves_teardown (identity : Value) : Run.Leads (Leaves d i) (teardown identity : Run _ _ (Numbered π) _) := by
  refine leads_teardown follows_leaves (fun _ w => ?_) fun w e _ => ?_
  · refine leads_tearDownEach follows_leaves (fun v j e es entries => ?_) _ w rfl
    have first : Leaves d i v { v with registry := { v.registry with entries := ⟨es⟩ } } := by
      intro h keys
      have whole : v.registry.entries = ⟨(j, e) :: es⟩ := congrArg Keyed.mk entries
      rw [whole] at keys
      refine ⟨⟨h.driver, h.written⟩, List.Pairwise.of_cons keys, rfl, ?_⟩
      rw [whole]
      exact Keyed.lookup_tail keys i
    exact follows_leaves.trans first (leaves_closeRemoved j e _)
  · have removed : Leaves d i w { w with registry := w.registry.remove identity } := by
      refine fun h keys => ⟨⟨h.driver, h.written⟩, Keyed.distinct_erase keys, rfl, ?_⟩
      have erased := Keyed.lookup_erase (t := w.registry.entries) (k := identity) (l := i)
      by_cases same : i.same identity = true
      · exact Or.inl (erased.trans (if_pos same))
      · exact Or.inr (erased.trans (if_neg same))
    exact follows_leaves.trans removed (leaves_closeRemoved identity e _)

end Registry

/-! ## Whatever is asked -/

/-- What a call opens that may be about an entry is held by the entry afterwards. -/
theorem Call.spends_run (g : Gateway) {c : Call} {w v : RecordedWorld σ κ π} (h : Accounted d [] [] w)
    (run : v = ((c.run g).run w).2) (registered : v.registry.entries.has i = true) (here : c.elsewhere i = false)
    (stays : c.closes i = false) : v.openings + w.holding i ≤ w.openings + v.holding i := by
  have spent (hx : Run.Leads (Spends d i) (c.run g)) : v.openings + w.holding i ≤ w.openings + v.holding i := by
    rw [run]
    exact (hx w h.toReady).2
  have tornDown (hx : Run.Leads (Leaves d i) (c.run g)) : v.openings + w.holding i ≤ w.openings + v.holding i := by
    obtain ⟨_, _, opened, left⟩ := hx w h.toReady h.keys
    rw [← run] at opened left
    have same : v.registry.entries.lookup i = w.registry.entries.lookup i := by
      refine left.resolve_left fun gone => ?_
      rw [Keyed.has, gone] at registered
      cases registered
    have holds : v.holding i = w.holding i := Spares.holding same
    omega
  cases c with
  | registerConnection config schemas =>
    exact spent (Run.leads_dropped follows_spends (Run.leads_settle (Registry.spends_register config schemas)))
  | teardown identity =>
    exact tornDown (Run.leads_dropped follows_leaves (Run.leads_settle (Registry.leaves_teardown identity)))
  | tearDownEntries identity => exact tornDown (Registry.leaves_teardown identity)
  | closeEntry j =>
    have mine : i.same j = true := by simpa [elsewhere] using here
    rw [show i.same j = false from stays] at mine
    cases mine
  | addSchema j name s => exact spent (Registry.spends_addSchema j name s)
  | execute j s schemaName =>
    have mine : i.same j = true := by simpa [elsewhere] using here
    exact spent (Run.leads_dropped follows_spends (Dispatcher.spends_execute mine))
  | operate j schemaName o =>
    have mine : i.same j = true := by simpa [elsewhere] using here
    refine spent (Run.leads_dropped follows_spends ?_)
    refine Gateway.leads_perform follows_spends (fun st => Dispatcher.spends_execute mine) (fun s => ?_) o
    exact Registry.spends_addSchema j schemaName s

end TableGateway
