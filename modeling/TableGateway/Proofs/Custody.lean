import TableGateway.Proofs.Accounting

/-!
# Nothing is lost on the way

Every call keeps the account (`Accounted`), whatever the driver answers and wherever the call stops. Inside a call
something may be lent: a connection out of a pool while its statement runs, a new connection or pool until its entry
holds it, what an entry held until it is closed.

- **`keeps_execute`**: a statement, run over a pool's connection, over the entry's own, or over a new one;
- **`accounted_closeHeld`**, **`keeps_teardown`**: closing what entries held, one or all;
- **`keeps_register`**: a new entry, with its pool when it asks for one;
- **`keeps_call`**: whatever is asked.
-/

namespace TableGateway

variable {σ κ π α β : Type} {d : Driver σ κ π}

/-- The run keeps the account. -/
def Run.Keeps (d : Driver σ κ π) (x : Run (Recorded σ) (Numbered κ) (Numbered π) α) : Prop :=
  Run.Leads (fun w v => Accounted d [] [] w → Accounted d [] [] v) x

theorem follows_accounted {conns pools : List Nat} :
    Follows (fun w v : RecordedWorld σ κ π => Accounted d conns pools w → Accounted d conns pools v) :=
  follows_of_invariant fun a h => h.alike a

namespace Run

theorem Quiet.keeps {x : Run (Recorded σ) (Numbered κ) (Numbered π) α} (q : Quiet x) : Keeps d x :=
  q.leads follows_accounted

end Run

/-! ## Statements -/

namespace Dispatcher

variable {dp : Dispatcher} {s : Statement} {identity schemaName : Value} {e : Entry (Numbered κ) (Numbered π)}
  {conns pools : List Nat} {w : RecordedWorld σ κ π}

/-- Running a statement on a connection keeps the account, whatever is lent meanwhile. -/
theorem accounted_runOn (c : Numbered κ) (h : Accounted d conns pools w) :
    Accounted d conns pools ((dp.runOn s c).run w).2 := by
  refine Run.leads_bind follows_accounted ((quiet_announce dp s).leads follows_accounted) (fun _ v g => ?_) w h
  obtain ⟨r, u, run, adds⟩ := call_query g.driver c s.sql (valuesOf s)
  rw [run]
  exact g.passed adds rfl rfl rfl rfl

/-- A connection out of the pool is lent while the statement runs, and closed afterwards in any case. -/
theorem accounted_pooled (p : Numbered π) (h : Accounted d [] [] w) :
    Accounted d [] [] ((do
      let c ← Run.call fun d => d.acquire p
      Run.ensure (dp.runOn s c) (Run.call fun d => d.close c) : Run _ _ _ _).run w).2 := by
  obtain ⟨r, v, run, adds⟩ := call_acquire h.driver p
  cases r with
  | error f =>
    rw [Run.run_bind_error run]
    exact h.passed adds rfl rfl rfl rfl
  | ok c =>
    have lent : Accounted d [w.record.length] [] v := h.acquired adds
    have ran : Accounted d [w.record.length] [] ((dp.runOn s ⟨w.record.length, c⟩).run v).2 :=
      accounted_runOn ⟨w.record.length, c⟩ lent
    obtain ⟨_, u, closing, closes⟩ := call_close ran.driver ⟨w.record.length, c⟩
    rw [Run.run_bind_ok run, Run.snd_ensure, closing]
    exact ran.closed closes

/-- A new connection is lent until the entry keeps it. What the driver logs of it meanwhile is taken. -/
theorem accounted_openKept (h : Accounted d [] [] w) (found : w.registry.entries.lookup identity = some e)
    (noConn : e.conn = none) (noPool : e.pool = none) :
    Accounted d [] [] ((openKept identity e).run w).2 := by
  obtain ⟨r, v, adds, run⟩ := run_openKept h.toReady identity e
  cases r with
  | error f =>
    rw [show (openKept identity e).run w = (.error f, v) from run]
    exact h.passed adds rfl rfl rfl rfl
  | ok c =>
    obtain ⟨q, u, run, _, same⟩ := run
    have lent : Accounted d [w.record.length] [] v := h.connected adds
    have found' : v.registry.entries.lookup identity = some e := by rw [adds.registry, found]
    have kept : Accounted d [] []
        { v with registry := v.registry.update identity { e with conn := some ⟨w.record.length, c⟩ } } := by
      refine lent.update found' (Or.inr noPool) ?_ (.refl _) ?_
      · rw [show e.connNumbers = [] by rw [Entry.connNumbers, noConn]; rfl]
        exact .refl _
      · intro n hn
        rw [show n = w.record.length from List.mem_singleton.1 hn, adds.record, List.filterMap_append]
        exact List.mem_append_right _ (.head _)
    rw [run]
    exact kept.alike same

theorem accounted_withConnection (h : Accounted d [] [] w) (found : w.registry.resolve identity = .ok e) :
    Accounted d [] [] ((withConnection identity e (dp.runOn s)).run w).2 := by
  have held := Registry.lookup_of_resolve found
  unfold withConnection
  split
  · next p _ => exact accounted_pooled p h
  · next noPool =>
    split
    · next c _ => exact accounted_runOn c h
    · next noConn =>
      have opened := accounted_openKept h held noConn noPool
      rw [Run.run_bind]
      cases run : (openKept identity e).run w with
      | mk r v =>
        rw [run] at opened
        cases r with
        | ok c => exact accounted_runOn c opened
        | error f => exact opened

theorem keeps_execute : Run.Keeps d (dp.execute identity s schemaName) :=
  leads_execute follows_accounted fun _ _ found h => accounted_withConnection h found

end Dispatcher

/-! ## Closing -/

namespace Registry

variable {identity : Value} {e : Entry (Numbered κ) (Numbered π)} {w : RecordedWorld σ κ π}

/-- Closing what an entry held ends what is lent: it held a connection, or a pool, or neither. -/
theorem accounted_closeHeld (h : Accounted d e.connNumbers e.poolNumbers w) (single : e.conn = none ∨ e.pool = none) :
    Accounted d [] [] ((closeHeld e).run w).2 := by
  rcases hc : e.conn with _ | c
  · rw [snd_closeHeld_of_noConn hc]
    rcases hp : e.pool with _ | p
    · have all : Accounted d [] [] w := by simpa [Entry.connNumbers, Entry.poolNumbers, hc, hp] using h
      exact (Run.quiet_pure none).keeps w all
    · have lent : Accounted d [] [p.number] w := by simpa [Entry.connNumbers, Entry.poolNumbers, hc, hp] using h
      obtain ⟨r, v, run, adds⟩ := call_dispose lent.driver p
      rw [release, snd_enginesError?, run]
      exact lent.disposed adds
  · have noPool : e.pool = none := single.resolve_left (by rw [hc]; exact Option.some_ne_none c)
    have lent : Accounted d [c.number] [] w := by simpa [Entry.connNumbers, Entry.poolNumbers, hc, noPool] using h
    obtain ⟨r, v, run, adds⟩ := call_close lent.driver c
    rw [snd_closeHeld_of_noPool noPool, hc, release, snd_enginesError?, run]
    exact lent.closed adds

/-- Closing a removed entry ends what is lent as well. -/
theorem accounted_closeRemoved (identity : Value) (h : Accounted d e.connNumbers e.poolNumbers w)
    (single : e.conn = none ∨ e.pool = none) : Accounted d [] [] ((closeRemoved identity e).run w).2 :=
  (accounted_closeHeld h single).alike (alike_closeRemoved identity e w)

theorem accounted_tearDownOne (h : Accounted d [] [] w) (found : w.registry.entries.lookup identity = some e) :
    Accounted d [] [] ((tearDownOne identity e).run w).2 := by
  have single : e.conn = none ∨ e.pool = none := h.single e (Keyed.mem_values_of_lookup found)
  rw [tearDownOne, Run.run_bind_ok (Run.run_changeRegistry _ w)]
  exact accounted_closeRemoved identity (h.remove found) single

theorem keeps_teardown (identity : Value) : Run.Keeps d (teardown identity : Run _ _ (Numbered π) _) := by
  refine leads_teardown follows_accounted (fun _ w => ?_) fun w e found h => accounted_tearDownOne h found
  refine leads_tearDownEach follows_accounted (fun w i e es entries h => ?_) _ w rfl
  have first : e ∈ w.registry.entries.values := by
    rw [Keyed.values, entries]
    exact .head _
  exact accounted_closeRemoved i (h.removeFirst entries) (h.single e first)

theorem keeps_closeEntry (identity : Value) : Run.Keeps d (closeEntry identity : Run _ _ (Numbered π) _) := by
  refine Run.leads_bind_of follows_accounted ((quiet_resolved identity).leads follows_accounted) ?_
  intro w e v resolved h
  rw [run_resolved] at resolved
  obtain ⟨found, rfl⟩ := Prod.mk.inj resolved
  have held := lookup_of_resolve found
  have single : e.conn = none ∨ e.pool = none := h.single e (Keyed.mem_values_of_lookup held)
  rw [Run.run_bind_ok (Run.run_changeRegistry _ w)]
  refine accounted_closeHeld (h.update held (Or.inl rfl) ?_ ?_ ?_) single
  · exact (List.append_nil _).symm ▸ .refl _
  · exact (List.append_nil _).symm ▸ .refl _
  · intro n hn
    cases hn

theorem keeps_addSchema (identity name : Value) (s : Registered) :
    Run.Keeps d (addSchema identity name s : Run _ (Numbered κ) (Numbered π) _) := by
  refine leads_addSchema follows_accounted fun w e found h => ?_
  have held := lookup_of_resolve found
  refine h.update held (h.single e (Keyed.mem_values_of_lookup held)) (.refl _) (.refl _) fun n hn => ?_
  exact h.opened n (List.mem_flatMap.2 ⟨e, Keyed.mem_values_of_lookup held, hn⟩)

/-- The pool of a configuration is lent until an entry holds it. -/
theorem accounted_poolOf (c : Config) (h : Accounted d [] [] w) :
    ∃ r v, (poolOf c).run w = (r, v) ∧ v.registry = w.registry ∧
      match r with
      | .ok pool => Accounted d [] (pool.map Numbered.number).toList v
      | .error _ => Accounted d [] [] v := by
  obtain ⟨_, run⟩ | ⟨_, r, v, run, adds⟩ := run_poolOf h.driver c
  · exact ⟨_, w, run, rfl, h⟩
  · cases r with
    | ok p => exact ⟨_, v, run, adds.registry, h.pooled adds⟩
    | error f => exact ⟨_, v, run, adds.registry, h.passed adds rfl rfl rfl rfl⟩

/-- A new entry comes with its pool, when the configuration asks for one. -/
theorem keeps_register (given : ConfigGiven) (schemas : Description) :
    Run.Keeps d (register given schemas : Run _ (Numbered κ) (Numbered π) _) := by
  refine leads_register_of follows_accounted (fun w c ss _ absent => ?_) given
  cases made : (poolOf c).run w with
  | mk r v =>
    cases r with
    | error f =>
      intro h
      obtain ⟨_, _, run, _, held⟩ := accounted_poolOf c h
      cases made.symm.trans run
      exact held
    | ok pool =>
      intro h
      obtain ⟨_, _, run, registry, held⟩ := accounted_poolOf c h
      cases made.symm.trans run
      rw [← registry] at absent
      exact held.insert absent rfl rfl

end Registry

/-- Whatever is asked keeps the account. -/
theorem keeps_call (g : Gateway) (c : Call) : Run.Keeps d (c.run g : Run _ (Numbered κ) (Numbered π) _) := by
  cases c with
  | registerConnection config schemas =>
    exact Run.leads_dropped follows_accounted (Run.leads_settle (Registry.keeps_register config schemas))
  | teardown identity =>
    exact Run.leads_dropped follows_accounted (Run.leads_settle (Registry.keeps_teardown identity))
  | tearDownEntries identity => exact Registry.keeps_teardown identity
  | closeEntry identity => exact Registry.keeps_closeEntry identity
  | addSchema identity name s => exact Registry.keeps_addSchema identity name s
  | execute identity s schemaName => exact Run.leads_dropped follows_accounted Dispatcher.keeps_execute
  | operate identity schemaName o =>
    refine Run.leads_dropped follows_accounted ?_
    refine Gateway.leads_perform follows_accounted (fun st => Dispatcher.keeps_execute) (fun s => ?_) o
    exact Registry.keeps_addSchema identity schemaName s

end TableGateway
