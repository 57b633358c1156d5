import TableGateway.Proofs.Balance
import TableGateway.Proofs.Entries

/-!
# What the registry accounts for

A world is accounted for when every connection and every pool that its record says was made is gone, or held by one
entry of the registry, or lent: taken from an entry or from the driver by a run that is still under way
(`Accounted`). An entry never holds both a connection and a pool, and the connections that entries hold are opened
ones.

- **`Accounted.connected`**, **`Accounted.closed`**, ...: what a call to the driver does to the account;
- **`Accounted.update`**, **`Accounted.insert`**, **`Accounted.remove`**: what a change of the registry does to it.
-/

namespace TableGateway

variable {σ κ π : Type}

/-- The number of the connection that an entry holds. -/
def Entry.connNumbers (e : Entry (Numbered κ) (Numbered π)) : List Nat := (e.conn.map Numbered.number).toList

/-- The number of the pool that an entry holds. -/
def Entry.poolNumbers (e : Entry (Numbered κ) (Numbered π)) : List Nat := (e.pool.map Numbered.number).toList

namespace Registry

/-- The connections that entries hold. -/
def live (r : Registry (Recorded σ) (Numbered κ) (Numbered π)) : List Nat :=
  r.entries.values.flatMap Entry.connNumbers

/-- The pools that entries hold. -/
def held (r : Registry (Recorded σ) (Numbered κ) (Numbered π)) : List Nat :=
  r.entries.values.flatMap Entry.poolNumbers

theorem lookup_of_resolve {r : Registry σ κ π} {identity : Value} {e : Entry κ π} (h : r.resolve identity = .ok e) :
    r.entries.lookup identity = some e := by
  unfold resolve find Keyed.find at h
  split at h
  · cases hl : r.entries.lookup identity with
    | none => rw [hl] at h; cases h
    | some e' => rw [hl] at h; cases h; rfl
  · cases h

theorem resolve_of_lookup {r : Registry σ κ π} {identity : Value} {e : Entry κ π}
    (found : r.entries.lookup identity = some e) : r.resolve identity = .ok e := by
  rw [resolve, find, Keyed.find_of_lookup found]
  rfl

end Registry

/-- Everything that was made is gone, held by one entry, or lent: the connections `conns` and the pools `pools`. -/
structure Accounted (d : Driver σ κ π) (conns pools : List Nat) (w : RecordedWorld σ κ π) : Prop
    extends RecordedWorld.Ready d w where
  keys : w.registry.entries.Distinct
  single : ∀ e ∈ w.registry.entries.values, e.conn = none ∨ e.pool = none
  conn : Balance Exchange.conn? Exchange.closed? w.record (conns ++ w.registry.live)
  pool : Balance Exchange.pool? Exchange.disposed? w.record (pools ++ w.registry.held)
  opened : ∀ n ∈ w.registry.live, n ∈ w.record.filterMap Exchange.opened?

/-- What was lent of a whole, or is lent then, is exchanged; the rest stays. -/
theorem perm_of_exchanged {before after lent lent' part part' rest : List Nat} (hb : before.Perm (part ++ rest))
    (ha : after.Perm (part' ++ rest)) (h : (lent ++ part).Perm (lent' ++ part')) :
    (lent ++ before).Perm (lent' ++ after) := by
  refine (hb.append_left lent).trans (.trans ?_ (ha.symm.append_left lent'))
  rw [← List.append_assoc, ← List.append_assoc]
  exact h.append_right rest

namespace Accounted

variable {d : Driver σ κ π} {conns pools conns' pools' : List Nat} {w v : RecordedWorld σ κ π}

/-- Only the record and the registry count. -/
theorem same (h : Accounted d conns pools w) (ready : v.Ready d) (registry : v.registry = w.registry)
    (record : v.record = w.record) : Accounted d conns pools v := by
  refine ⟨ready, ?_, ?_, ?_, ?_, ?_⟩
  · rw [registry]; exact h.keys
  · rw [registry]; exact h.single
  · rw [record, registry]; exact h.conn
  · rw [record, registry]; exact h.pool
  · rw [record, registry]; exact h.opened

theorem alike (h : Accounted d conns pools w) (a : w.Alike v) : Accounted d conns pools v :=
  h.same (h.toReady.alike a) a.registry (RecordedWorld.record_alike a)

/-! ## Calls to the driver -/

section Calls

variable {x : Exchange} {n : Nat}

/-- One exchange more, and the balances that go with it. -/
theorem adds (h : Accounted d conns pools w) (a : w.Adds x v)
    (conn : Balance Exchange.conn? Exchange.closed? (w.record ++ [x]) (conns' ++ w.registry.live))
    (pool : Balance Exchange.pool? Exchange.disposed? (w.record ++ [x]) (pools' ++ w.registry.held)) :
    Accounted d conns' pools' v := by
  have ready := h.toReady.adds a
  obtain ⟨record, registry, writes, _⟩ := a
  refine ⟨ready, ?_, ?_, ?_, ?_, ?_⟩
  · rw [registry]; exact h.keys
  · rw [registry]; exact h.single
  · rw [record, registry]; exact conn
  · rw [record, registry]; exact pool
  · rw [record, registry, List.filterMap_append]
    exact fun n hn => List.mem_append_left _ (h.opened n hn)

/-- A call that makes nothing and after which nothing is gone. -/
theorem passed (h : Accounted d conns pools w) (a : w.Adds x v) (hc : x.conn? = none) (hg : x.closed? = none)
    (hp : x.pool? = none) (hd : x.disposed? = none) : Accounted d conns pools v :=
  h.adds a (h.conn.pass hc hg) (h.pool.pass hp hd)

theorem connected {cs : String} (h : Accounted d conns pools w) (a : w.Adds (.connect cs (.ok w.record.length)) v) :
    Accounted d (w.record.length :: conns) pools v :=
  h.adds a (h.conn.make rfl rfl) (h.pool.pass rfl rfl)

theorem acquired {p : Nat} (h : Accounted d conns pools w) (a : w.Adds (.acquire p (.ok w.record.length)) v) :
    Accounted d (w.record.length :: conns) pools v :=
  h.adds a (h.conn.make rfl rfl) (h.pool.pass rfl rfl)

theorem closed {r : Except Failure Unit} (h : Accounted d (n :: conns) pools w) (a : w.Adds (.close n r) v) :
    Accounted d conns pools v :=
  h.adds a (h.conn.lose rfl rfl) (h.pool.pass rfl rfl)

theorem pooled {cs : String} (h : Accounted d conns pools w) (a : w.Adds (.createPool cs (.ok w.record.length)) v) :
    Accounted d conns (w.record.length :: pools) v :=
  h.adds a (h.conn.pass rfl rfl) (h.pool.make rfl rfl)

theorem disposed {r : Except Failure Unit} (h : Accounted d conns (n :: pools) w) (a : w.Adds (.dispose n r) v) :
    Accounted d conns pools v :=
  h.adds a (h.conn.pass rfl rfl) (h.pool.lose rfl rfl)

end Calls

/-! ## Changes of the registry -/

/-- The same record under other entries: what they hold and what is lent is a rearrangement of what it was. -/
theorem rearranged (h : Accounted d conns pools w) {entries : Keyed (Entry (Numbered κ) (Numbered π))}
    (keys : entries.Distinct) (single : ∀ e ∈ entries.values, e.conn = none ∨ e.pool = none)
    (conn : (conns ++ w.registry.live).Perm (conns' ++ entries.values.flatMap Entry.connNumbers))
    (pool : (pools ++ w.registry.held).Perm (pools' ++ entries.values.flatMap Entry.poolNumbers))
    (opened : ∀ n ∈ entries.values.flatMap Entry.connNumbers, n ∈ w.record.filterMap Exchange.opened?) :
    Accounted d conns' pools' { w with registry := { w.registry with entries := entries } } :=
  ⟨⟨h.driver, h.written⟩, keys, single, h.conn.of_perm conn, h.pool.of_perm pool, opened⟩

section Entries

variable {identity : Value} {e e' : Entry (Numbered κ) (Numbered π)}

/-- An entry is changed: what the old one held and what was lent is what the new one holds and what is lent then. -/
theorem update (h : Accounted d conns pools w) (found : w.registry.entries.lookup identity = some e)
    (single : e'.conn = none ∨ e'.pool = none)
    (conn : (conns ++ e.connNumbers).Perm (conns' ++ e'.connNumbers))
    (pool : (pools ++ e.poolNumbers).Perm (pools' ++ e'.poolNumbers))
    (opened : ∀ n ∈ e'.connNumbers, n ∈ w.record.filterMap Exchange.opened?) :
    Accounted d conns' pools' { w with registry := w.registry.update identity e' } := by
  obtain ⟨rest, values, put, _⟩ := Keyed.exists_rest h.keys found
  have before := values.flatMap_right Entry.connNumbers
  have after := (put e').flatMap_right Entry.connNumbers
  have beforePool := values.flatMap_right Entry.poolNumbers
  have afterPool := (put e').flatMap_right Entry.poolNumbers
  rw [List.flatMap_cons] at before after beforePool afterPool
  refine h.rearranged (Keyed.distinct_put h.keys) ?_ ?_ ?_ ?_
  · intro f hf
    rcases List.mem_cons.1 ((put e').mem_iff.1 hf) with rfl | hf
    · exact single
    · exact h.single f (values.mem_iff.2 (.tail _ hf))
  · exact perm_of_exchanged before after conn
  · exact perm_of_exchanged beforePool afterPool pool
  · intro n hn
    rcases List.mem_append.1 (after.mem_iff.1 hn) with hn | hn
    · exact opened n hn
    · exact h.opened n (before.mem_iff.2 (List.mem_append_right _ hn))

/-- An entry is added under a new key, with a pool that was lent or with nothing. -/
theorem insert (h : Accounted d [] pools w) (absent : w.registry.entries.lookup identity = none)
    (conn : e'.conn = none) (pool : pools = e'.poolNumbers) :
    Accounted d [] [] { w with registry := w.registry.update identity e' } := by
  have values := Keyed.values_put_new (v := e') absent
  have noConn : e'.connNumbers = [] := by rw [Entry.connNumbers, conn]; rfl
  have live : (w.registry.entries.put identity e').values.flatMap Entry.connNumbers = w.registry.live := by
    rw [values, List.flatMap_append, List.flatMap_singleton, noConn, List.append_nil]
    rfl
  refine h.rearranged (Keyed.distinct_put h.keys) ?_ ?_ ?_ ?_
  · intro f hf
    rw [values] at hf
    rcases List.mem_append.1 hf with hf | hf
    · exact h.single f hf
    · rw [List.mem_singleton.1 hf]
      exact Or.inl conn
  · rw [live]
  · rw [values, List.flatMap_append, List.flatMap_singleton, pool, List.nil_append]
    exact List.perm_append_comm
  · intro n hn
    rw [live] at hn
    exact h.opened n hn

/-- An entry is removed: what it held is lent. -/
theorem remove (h : Accounted d [] [] w) (found : w.registry.entries.lookup identity = some e) :
    Accounted d e.connNumbers e.poolNumbers { w with registry := w.registry.remove identity } := by
  obtain ⟨rest, values, _, erase⟩ := Keyed.exists_rest h.keys found
  have before := values.flatMap_right Entry.connNumbers
  have after := erase.flatMap_right Entry.connNumbers
  have beforePool := values.flatMap_right Entry.poolNumbers
  have afterPool := erase.flatMap_right Entry.poolNumbers
  rw [List.flatMap_cons] at before beforePool
  refine h.rearranged (Keyed.distinct_erase h.keys) ?_ ?_ ?_ ?_
  · intro f hf
    exact h.single f (values.mem_iff.2 (.tail _ (erase.mem_iff.1 hf)))
  · exact before.trans (after.symm.append_left _)
  · exact beforePool.trans (afterPool.symm.append_left _)
  · intro n hn
    exact h.opened n (before.mem_iff.2 (List.mem_append_right _ (after.mem_iff.1 hn)))

/-- The first entry is removed: what it held is lent. -/
theorem removeFirst {es : List (Value × Entry (Numbered κ) (Numbered π))} (h : Accounted d [] [] w)
    (entries : w.registry.entries.entries = (identity, e) :: es) :
    Accounted d e.connNumbers e.poolNumbers { w with registry := { w.registry with entries := ⟨es⟩ } } := by
  have values : w.registry.entries.values = e :: es.map Prod.snd := congrArg (List.map Prod.snd) entries
  have keys := h.keys
  rw [Keyed.Distinct, entries] at keys
  have live : w.registry.live = e.connNumbers ++ (es.map Prod.snd).flatMap Entry.connNumbers := by
    rw [Registry.live, values, List.flatMap_cons]
  have held : w.registry.held = e.poolNumbers ++ (es.map Prod.snd).flatMap Entry.poolNumbers := by
    rw [Registry.held, values, List.flatMap_cons]
  refine h.rearranged keys.of_cons ?_ ?_ ?_ ?_
  · intro f hf
    exact h.single f (by rw [values]; exact .tail _ hf)
  · rw [live]; exact .refl _
  · rw [held]; exact .refl _
  · intro n hn
    exact h.opened n (by rw [live]; exact List.mem_append_right _ hn)

end Entries

end Accounted

end TableGateway
