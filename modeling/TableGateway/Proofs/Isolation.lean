import TableGateway.Proofs.Sessions
import TableGateway.Proofs.Sources

/-!
# Isolation

A call on an identity concerns the entry of that identity alone. Whatever an entry holds was made with the connection
string of the entry (`Traced`): this holds at the start of a session and every call keeps it, those that register an
identity anew with another configuration included. So the driver is called with the connection string that is registered
under the identity when the call is made, and the entries of other identities stay as they are, in their order
(`Confined`).

- **`isolates_execute`**, **`isolates_teardown`**, ...: the parts of a call on an identity;
- **`isolates_run`**: any call on an identity;
- **`traced_run`**: any call, on one identity or on all;
- **`isolated`**: any call on an identity at any point of a session.
-/

namespace TableGateway

variable {σ κ π α : Type} {d : Driver σ κ π} {i : Value}

/-- Every entry holds what was made with its own connection string. -/
structure Traced (d : Driver σ κ π) (w : RecordedWorld σ κ π) : Prop extends RecordedWorld.Ready d w where
  entries : ∀ e ∈ w.registry.entries.values, e.Sourced w.record

/-- Between the two worlds the driver was called with the connection string that the first one has under `i` alone;
the entry of `i` kept it unless it is gone, and the other entries stayed as they were. -/
structure Confined (i : Value) (w v : RecordedWorld σ κ π) : Prop where
  grown : ∃ xs, v.record = w.record ++ xs ∧ ∀ x ∈ xs, ∃ e, w.registry.entries.lookup i = some e ∧
    x.source? v.record = some e.connectionString
  stays : ∀ e', v.registry.entries.lookup i = some e' → ∃ e, w.registry.entries.lookup i = some e ∧
    e'.connectionString = e.connectionString
  others : v.registry.entries.others i = w.registry.entries.others i

/-- What entries hold stays traced, and only the entry of `i` is concerned. -/
def Isolates (d : Driver σ κ π) (i : Value) (w v : RecordedWorld σ κ π) : Prop :=
  Traced d w → Traced d v ∧ Confined i w v

namespace Traced

variable {w v : RecordedWorld σ κ π} {e : Entry (Numbered κ) (Numbered π)} {cs : String}

theorem of_lookup (h : Traced d w) (found : w.registry.entries.lookup i = some e) : e.Sourced w.record :=
  h.entries e (Keyed.mem_values_of_lookup found)

theorem alike (h : Traced d w) (a : w.Alike v) : Traced d v where
  toReady := h.toReady.alike a
  entries e he := by
    rw [a.registry] at he
    rw [RecordedWorld.record_alike a]
    exact h.entries e he

theorem uses (h : Traced d w) (u : Uses cs w v) : Traced d v where
  toReady := u.ready h.toReady
  entries e he := by
    obtain ⟨xs, grown, _⟩ := u.grown
    rw [u.registry] at he
    rw [grown]
    exact (h.entries e he).append xs

theorem update (h : Traced d w) (j : Value) (sourced : e.Sourced w.record) :
    Traced d { w with registry := w.registry.update j e } where
  toReady := h.toReady.update j e
  entries e' he := by
    rcases Keyed.mem_values_put he with rfl | old
    · exact sourced
    · exact h.entries e' old

/-- Fewer entries are traced as well. -/
theorem of_subset {entries : Keyed (Entry (Numbered κ) (Numbered π))} (h : Traced d w)
    (fewer : ∀ e ∈ entries.values, e ∈ w.registry.entries.values) :
    Traced d { w with registry := { w.registry with entries := entries } } where
  toReady := ⟨h.driver, h.written⟩
  entries e he := h.entries e (fewer e he)

end Traced

/-! ## Following both -/

theorem follows_traced : Follows fun w v : RecordedWorld σ κ π => Traced d w → Traced d v :=
  follows_of_invariant fun a h => h.alike a

namespace Confined

variable {u v w : RecordedWorld σ κ π}

theorem of_alike (a : w.Alike v) : Confined i w v where
  grown := ⟨[], by rw [List.append_nil, RecordedWorld.record_alike a], fun x hx => by cases hx⟩
  stays e' found := by
    rw [a.registry] at found
    exact ⟨e', found, rfl⟩
  others := by rw [a.registry]

theorem trans (h : Confined i u v) (g : Confined i v w) : Confined i u w where
  grown := by
    obtain ⟨xs, first, sources⟩ := h.grown
    obtain ⟨ys, second, sources'⟩ := g.grown
    refine ⟨xs ++ ys, by rw [second, first, List.append_assoc], ?_⟩
    intro x hx
    rcases List.mem_append.1 hx with early | late
    · obtain ⟨e, found, source⟩ := sources x early
      refine ⟨e, found, ?_⟩
      rw [second]
      exact source?_append ys source
    · -- the entry has the connection string that it had at first
      obtain ⟨e', found', source⟩ := sources' x late
      obtain ⟨e, found, same⟩ := h.stays e' found'
      exact ⟨e, found, by rw [source, same]⟩
  stays e'' found'' := by
    obtain ⟨e', found', same'⟩ := g.stays e'' found''
    obtain ⟨e, found, same⟩ := h.stays e' found'
    exact ⟨e, found, same'.trans same⟩
  others := g.others.trans h.others

/-- Calls with the connection string of the entry concern the entry alone. -/
theorem of_uses {e : Entry (Numbered κ) (Numbered π)} (found : w.registry.entries.lookup i = some e)
    (u : Uses e.connectionString w v) : Confined i w v where
  grown := by
    obtain ⟨xs, grown, sources⟩ := u.grown
    exact ⟨xs, grown, fun x hx => ⟨e, found, sources x hx⟩⟩
  stays e' found' := by
    rw [u.registry] at found'
    exact ⟨e', found', rfl⟩
  others := by rw [u.registry]

/-- So does a change of the entry that leaves its connection string. -/
theorem of_update {e e' : Entry (Numbered κ) (Numbered π)} (found : w.registry.entries.lookup i = some e)
    (same : e'.connectionString = e.connectionString) :
    Confined i w { w with registry := w.registry.update i e' } where
  grown := ⟨[], (List.append_nil _).symm, fun x hx => by cases hx⟩
  stays e'' found'' := by
    have own := Keyed.same_self_of_lookup found
    have put : (w.registry.entries.put i e').lookup i = some e' := by rw [Keyed.lookup_put, if_pos own]
    cases put.symm.trans found''
    exact ⟨e, found, same⟩
  others := Keyed.others_put (Keyed.same_self_of_lookup found)

end Confined

theorem follows_isolates : Follows (Isolates d i) where
  alike a h := ⟨h.alike a, .of_alike a⟩
  trans first second h := by
    obtain ⟨traced, confined⟩ := first h
    obtain ⟨traced, confined'⟩ := second traced
    exact ⟨traced, confined.trans confined'⟩

section Steps

variable {w v : RecordedWorld σ κ π} {e e' : Entry (Numbered κ) (Numbered π)}

theorem isolates_of_uses (found : w.registry.entries.lookup i = some e)
    (uses : Traced d w → Uses e.connectionString w v) : Isolates d i w v :=
  fun h => ⟨h.uses (uses h), .of_uses found (uses h)⟩

theorem isolates_update (found : w.registry.entries.lookup i = some e)
    (same : e'.connectionString = e.connectionString) (sourced : Traced d w → e'.Sourced w.record) :
    Isolates d i w { w with registry := w.registry.update i e' } :=
  fun h => ⟨h.update i (sourced h), .of_update found same⟩

end Steps

/-! ## Statements -/

namespace Dispatcher

variable {dp : Dispatcher} {s : Statement} {e : Entry (Numbered κ) (Numbered π)} {w : RecordedWorld σ κ π}

/-- A connection is opened with the connection string of the entry, and the entry keeps it. -/
theorem isolates_openKept (found : w.registry.entries.lookup i = some e) (noPool : e.pool = none) :
    Isolates d i w ((openKept i e).run w).2 := by
  intro h
  obtain ⟨r, v, adds, run⟩ := run_openKept h.toReady i e
  have opened : Uses e.connectionString w v := Uses.of_adds adds rfl
  have first : Isolates d i w v := isolates_of_uses found fun _ => opened
  cases r with
  | error f =>
    rw [show (openKept i e).run w = (.error f, v) from run]
    exact first h
  | ok c =>
    obtain ⟨q, u, run, _, same⟩ := run
    let kept : Entry (Numbered κ) (Numbered π) := { e with conn := some ⟨w.record.length, c⟩ }
    have found' : v.registry.entries.lookup i = some e := by rw [adds.registry, found]
    have sourced : kept.Sourced v.record := by
      constructor
      · intro c' held
        cases held
        rw [adds.record]
        exact connSource_opened _ _
      · intro p held
        cases noPool.symm.trans held
    have second : Isolates d i v { v with registry := v.registry.update i kept } :=
      isolates_update found' rfl fun _ => sourced
    rw [run]
    exact follows_isolates.trans (follows_isolates.trans first second) (follows_isolates.alike same) h

/-- A statement runs on the connection that was opened for it. -/
theorem isolates_openAndRun (found : w.registry.entries.lookup i = some e) (noPool : e.pool = none) :
    Isolates d i w ((openKept i e >>= dp.runOn s).run w).2 := by
  have opened : Isolates d i w ((openKept i e).run w).2 := isolates_openKept found noPool
  intro h
  obtain ⟨r, v, adds, run⟩ := run_openKept h.toReady i e
  cases r with
  | error f =>
    have run : (openKept i e).run w = (.error f, v) := run
    rw [run] at opened
    rw [Run.run_bind_error run]
    exact opened h
  | ok c =>
    obtain ⟨q, u, run, ended, same⟩ := run
    rw [run] at opened
    rcases ended with rfl | ⟨_, f, _, rfl⟩
    · -- the entry holds the new connection now
      have held : u.registry.entries.lookup i = some { e with conn := some ⟨w.record.length, c⟩ } := by
        rw [same.registry]
        show (v.registry.entries.put i _).lookup i = _
        rw [Keyed.lookup_put, if_pos (Keyed.same_self_of_lookup found)]
      have ran : Isolates d i u ((dp.runOn s ⟨w.record.length, c⟩).run u).2 :=
        isolates_of_uses held fun h => uses_runOn h.toReady ((h.of_lookup held).conn _ rfl)
      rw [Run.run_bind_ok run]
      exact follows_isolates.trans opened ran h
    · rw [Run.run_bind_error run]
      exact opened h

/-- A statement runs on a connection of the entry's own or of its pool. -/
theorem isolates_withConnection (found : w.registry.entries.lookup i = some e) :
    Isolates d i w ((withConnection i e (dp.runOn s)).run w).2 := by
  unfold withConnection
  split
  · next p held => exact isolates_of_uses found fun h => uses_pooled h.toReady ((h.of_lookup found).pool p held)
  · next noPool =>
    split
    · next c held => exact isolates_of_uses found fun h => uses_runOn h.toReady ((h.of_lookup found).conn c held)
    · exact isolates_openAndRun found noPool

theorem isolates_execute {schemaName : Value} :
    Run.Leads (Isolates d i) (dp.execute i s schemaName : Run _ _ (Numbered π) _) :=
  leads_execute follows_isolates fun _ _ found => isolates_withConnection (Registry.lookup_of_resolve found)

end Dispatcher

/-! ## Entries -/

namespace Registry

variable {e : Entry (Numbered κ) (Numbered π)} {w : RecordedWorld σ κ π}

theorem isolates_addSchema (name : Value) (s : Registered) :
    Run.Leads (Isolates d i) (addSchema i name s : Run _ (Numbered κ) (Numbered π) _) := by
  refine leads_addSchema follows_isolates fun w e found => ?_
  have held := lookup_of_resolve found
  refine isolates_update held rfl fun h => ?_
  exact ⟨(h.of_lookup held).conn, (h.of_lookup held).pool⟩

theorem isolates_closeEntry : Run.Leads (Isolates d i) (closeEntry i : Run _ (Numbered κ) (Numbered π) _) := by
  refine Run.leads_bind_of follows_isolates ((quiet_resolved i).leads follows_isolates) ?_
  intro w e v resolved
  rw [run_resolved] at resolved
  obtain ⟨found, rfl⟩ := Prod.mk.inj resolved
  have held := lookup_of_resolve found
  have bare : Isolates d i w { w with registry := w.registry.update i e.bare } :=
    isolates_update held rfl fun _ => ⟨nofun, nofun⟩
  have put : (w.registry.update i e.bare).entries.lookup i = some e.bare := by
    show (w.registry.entries.put i e.bare).lookup i = _
    rw [Keyed.lookup_put, if_pos (Keyed.same_self_of_lookup held)]
  intro h
  rw [Run.run_bind_ok (Run.run_changeRegistry _ w)]
  have closed : Isolates d i { w with registry := w.registry.update i e.bare }
      ((closeHeld e).run { w with registry := w.registry.update i e.bare }).2 :=
    isolates_of_uses put fun h' => uses_closeHeld h'.toReady (h.of_lookup held)
  exact follows_isolates.trans bare closed h

/-- What a removed entry held is closed with its connection string; the entry is gone. -/
theorem isolates_tearDownOne (found : w.registry.entries.lookup i = some e) :
    Isolates d i w ((tearDownOne i e).run w).2 := by
  intro h
  let left : RecordedWorld σ κ π := { w with registry := w.registry.remove i }
  have traced : Traced d left := h.of_subset fun e he => Keyed.mem_of_mem_values_erase he
  have closed : Uses e.connectionString left ((closeRemoved i e).run left).2 :=
    uses_closeRemoved i traced.toReady (h.of_lookup found)
  rw [tearDownOne, Run.run_bind_ok (Run.run_changeRegistry _ w)]
  refine ⟨traced.uses closed, ?_, ?_, ?_⟩
  · obtain ⟨xs, grown, sources⟩ := closed.grown
    exact ⟨xs, grown, fun x hx => ⟨e, found, sources x hx⟩⟩
  · intro e' found'
    rw [closed.registry] at found'
    have gone : (w.registry.entries.erase i).lookup i = none := by
      rw [Keyed.lookup_erase, if_pos (Keyed.same_self_of_lookup found)]
    cases gone.symm.trans found'
  · rw [closed.registry]
    exact Keyed.others_erase

theorem isolates_teardown (one : i.isNull = false) :
    Run.Leads (Isolates d i) (teardown i : Run _ (Numbered κ) (Numbered π) _) := by
  refine leads_teardown follows_isolates (fun all => ?_) fun w e found => isolates_tearDownOne found
  rw [one] at all
  cases all

/-- After a teardown of all entries, those that are left are traced. -/
theorem traced_tearDownEach (w : RecordedWorld σ κ π) (h : Traced d w) :
    Traced d ((tearDownEach w.registry.entries.entries).run w).2 := by
  refine leads_tearDownEach follows_traced (fun v j e es entries h => ?_) _ w rfl h
  have whole : v.registry.entries.values = e :: es.map Prod.snd := by
    rw [Keyed.values, entries]
    rfl
  have sourced : e.Sourced (RecordedWorld.record v) := h.entries e (by rw [whole]; exact .head _)
  have left : Traced d { v with registry := { v.registry with entries := ⟨es⟩ } } := by
    apply h.of_subset
    intro e' he
    rw [whole]
    exact .tail _ he
  exact left.uses (uses_closeRemoved j left.toReady sourced)

theorem traced_teardown (identity : Value) :
    Run.Leads (fun w v => Traced d w → Traced d v) (teardown identity : Run _ (Numbered κ) (Numbered π) _) :=
  leads_teardown follows_traced (fun _ => traced_tearDownEach) fun _ _ found h => (isolates_tearDownOne found h).1

/-- A new entry has a pool that was made with its connection string, or none. -/
theorem traced_register (given : ConfigGiven) (schemas : Description) :
    Run.Leads (fun w v => Traced d w → Traced d v) (register given schemas : Run _ (Numbered κ) (Numbered π) _) := by
  refine leads_register_of follows_traced (fun w c ss _ absent => ?_) given
  cases made : (poolOf c).run w with
  | mk r v =>
    cases r with
    | error f =>
      intro h
      obtain ⟨_, _, run, uses, _⟩ := uses_poolOf h.toReady c
      cases made.symm.trans run
      exact h.uses uses
    | ok pool =>
      intro h
      obtain ⟨_, _, run, uses, source⟩ := uses_poolOf h.toReady c
      cases made.symm.trans run
      refine (h.uses uses).update c.identity ⟨nofun, ?_⟩
      intro p held
      exact source p (by rw [show pool = some p from held])

end Registry

/-! ## Whatever is asked -/

/-- The identity that a call is on; a registration is on none that is there already. -/
def Call.identity? : Call → Option Value
  | .closeEntry i | .addSchema i .. | .execute i .. | .operate i .. => some i
  | .teardown i | .tearDownEntries i => if i.isNull then none else some i
  | .registerConnection .. => none

/-- A call on an identity concerns the entry of that identity alone. -/
theorem isolates_run (g : Gateway) {c : Call} (on : c.identity? = some i) :
    Run.Leads (Isolates d i) (c.run g : Run _ (Numbered κ) (Numbered π) _) := by
  have single {j : Value} (given : (if j.isNull then none else some j) = some i) : j = i ∧ i.isNull = false := by
    cases every : j.isNull with
    | true => rw [every, if_pos rfl] at given; cases given
    | false =>
      rw [every, if_neg (by decide)] at given
      cases given
      exact ⟨rfl, every⟩
  cases c with
  | registerConnection config schemas => cases on
  | teardown j =>
    obtain ⟨rfl, one⟩ := single on
    exact Run.leads_dropped follows_isolates (Run.leads_settle (Registry.isolates_teardown one))
  | tearDownEntries j =>
    obtain ⟨rfl, one⟩ := single on
    exact Registry.isolates_teardown one
  | closeEntry j =>
    cases on
    exact Registry.isolates_closeEntry
  | addSchema j name s =>
    cases on
    exact Registry.isolates_addSchema name s
  | execute j s schemaName =>
    cases on
    exact Run.leads_dropped follows_isolates Dispatcher.isolates_execute
  | operate j schemaName o =>
    cases on
    refine Run.leads_dropped follows_isolates ?_
    exact Gateway.leads_perform follows_isolates (fun _ => Dispatcher.isolates_execute)
      (fun s => Registry.isolates_addSchema schemaName s) o

/-- Every call keeps what entries hold traced. -/
theorem traced_run (g : Gateway) (c : Call) :
    Run.Leads (fun w v => Traced d w → Traced d v) (c.run g : Run _ (Numbered κ) (Numbered π) _) := by
  cases c with
  | registerConnection config schemas =>
    exact Run.leads_dropped follows_traced (Run.leads_settle (Registry.traced_register config schemas))
  | teardown j => exact Run.leads_dropped follows_traced (Run.leads_settle (Registry.traced_teardown j))
  | tearDownEntries j => exact Registry.traced_teardown j
  | closeEntry j => exact fun w h => (isolates_run g (c := .closeEntry j) rfl w h).1
  | addSchema j name s => exact fun w h => (isolates_run g (c := .addSchema j name s) rfl w h).1
  | execute j s schemaName => exact fun w h => (isolates_run g (c := .execute j s schemaName) rfl w h).1
  | operate j schemaName o => exact fun w h => (isolates_run g (c := .operate j schemaName o) rfl w h).1

/-! ## Sessions -/

namespace Session

variable {steps : List (Step σ κ π)} {w : RecordedWorld σ κ π}

theorem traced (s : Session d steps w) : Traced d w := by
  induction s with
  | @start w ready entries record =>
    refine ⟨ready, ?_⟩
    intro e he
    rw [entries] at he
    cases he
  | call s g c ih => exact traced_run g c _ ih
  | @aside steps w v s ready registry record ih =>
    refine ⟨ready, ?_⟩
    intro e he
    rw [registry] at he
    rw [record]
    exact ih.entries e he

/-- **Identities are isolated.** In any call on an identity, at any point of a session, every call to the driver is made
with the connection string of what is registered under the identity, and the entries of all other identities stay as
they are and in their order. -/
theorem isolated (s : Session d steps w) (g : Gateway) {c : Call} (on : c.identity? = some i) :
    (∀ x ∈ (Step.of g c w).made, ∃ e, w.registry.entries.lookup i = some e ∧
      x.source? (w.record ++ (Step.of g c w).made) = some e.connectionString) ∧
    (Step.of g c w).after.entries.others i = w.registry.entries.others i := by
  obtain ⟨_, confined⟩ := isolates_run g on w s.traced
  obtain ⟨xs, grown, sources⟩ := confined.grown
  have recorded := record_call s.accounted.toReady g c
  have made : (Step.of g c w).made = xs := List.append_cancel_left (recorded.symm.trans grown)
  refine ⟨?_, confined.others⟩
  intro x hx
  rw [made] at hx
  obtain ⟨e, found, source⟩ := sources x hx
  refine ⟨e, found, ?_⟩
  rw [← recorded]
  exact source

/-- An identity that is torn down and registered anew with another host, beside one that stays. The latest call comes
first. -/
def moved : List Call :=
  [.registerConnection (.built { identity := .text "a", host := .text "new" }) (.value .null), .teardown (.text "a"),
    .execute (.text "a") ⟨"SELECT 1", []⟩ .null,
    .registerConnection (.built { identity := .text "b", pool := .bool true }) (.value .null),
    .registerConnection (.built { identity := .text "a", host := .text "old" }) (.value .null)]

/-- Nothing is registered yet, and the driver does all that it is asked. -/
def atStart : RecordedWorld Unit Unit Unit where
  engine := { engine := () }
  registry := { driver := (Driver.steady (.ok ()) (.ok []) (.ok ())).recorded }

def relocated : List (Step Unit Unit Unit) × RecordedWorld Unit Unit Unit := calls {} atStart moved

/-- A statement opens a connection to the new host, and the other entry stays. -/
theorem isolated_relocated :
    let w := relocated.2
    let s := Step.of {} (.execute (.text "a") ⟨"SELECT 1", []⟩ .null) w
    s.made.length = 2 ∧
    (∀ x ∈ s.made, ∃ e, w.registry.entries.lookup (.text "a") = some e ∧ e.config.host = .text "new" ∧
      x.source? (w.record ++ s.made) = some e.connectionString) ∧
    s.after.entries.others (.text "a") = w.registry.entries.others (.text "a") := by
  intro w s
  have start : Session (Driver.steady (.ok ()) (.ok []) (.ok ())) [] atStart := .start ⟨rfl, fun _ _ _ => rfl⟩ rfl rfl
  have on : Call.identity? (.execute (.text "a") ⟨"SELECT 1", []⟩ .null) = some (.text "a") := rfl
  obtain ⟨sources, others⟩ := isolated (of_calls {} start moved) {} on
  refine ⟨by decide, ?_, others⟩
  intro x hx
  obtain ⟨e, found, source⟩ := sources x hx
  have host : (w.registry.entries.lookup (.text "a")).map (fun e => e.config.host) = some (.text "new") := rfl
  refine ⟨e, found, ?_, source⟩
  rw [show w.registry.entries.lookup (.text "a") = some e from found] at host
  exact Option.some.inj host

end Session

end TableGateway
