import TableGateway.Client.Driver
import TableGateway.Proofs.Recorded

/-!
# What happens to raw connections

`Client.overseen` works as the client library inside it and keeps a record of what happens to the raw connections:
which were opened, which statements ran on them without error, and which of them were rolled back or closed. A raw
connection is told by the place in the record of its opening, and a cursor by its connection. There is no call that
commits, so a rollback takes back whatever ran on its connection so far, and so does closing it.

Some of the raw connections are kept outside of the driver. `Guarded earlier kept pending s` says that the driver
leaves them alone: it has neither rolled back nor closed them, nor do they wait in a pool, nor are they leased.
Whatever ran on any other connection since the events `earlier` was taken back, unless it is still pending.

- **`Guarded.adds`**: what one more event does to this;
- **`guarded_openRaw`**, **`guarded_acquire`**, **`guarded_queryOn_leased`**, **`guarded_close_leased`**, ...: what a
  call to the driver does to it.
-/

namespace TableGateway

variable {τ ρ γ : Type}

/-! ## The record -/

/-- What happens to a raw connection. -/
inductive RawEvent where
  | opened
  | executed (conn : Nat) (sql : String)
  | rolledBack (conn : Nat)
  | closed (conn : Nat)
  deriving DecidableEq

/-- The connection of which all that ran on it so far is taken back. Failing on the way counts as well. -/
def RawEvent.undone? : RawEvent → Option Nat
  | .rolledBack n | .closed n => some n
  | _ => none

/-- A library's state and the record of what happened to its raw connections. -/
structure Overseen (τ : Type) where
  client : τ
  events : List RawEvent := []

/-- The library with a record of what happens to its raw connections. -/
def Client.overseen (l : Client τ ρ γ) : Client (Overseen τ) (Numbered ρ) (Numbered γ) where
  remark := l.remark
  connect cs t :=
    match l.connect cs t.client with
    | (.ok conn, u) => (.ok ⟨t.events.length, conn⟩, ⟨u, t.events ++ [.opened]⟩)
    | (.error f, u) => (.error f, ⟨u, t.events⟩)
  cursor conn t :=
    ((l.cursor conn.item t.client).1.map (Numbered.mk conn.number), ⟨(l.cursor conn.item t.client).2, t.events⟩)
  execute cur sql vs t :=
    match l.execute cur.item sql vs t.client with
    | (.ok columns, u) => (.ok columns, ⟨u, t.events ++ [.executed cur.number sql]⟩)
    | (.error f, u) => (.error f, ⟨u, t.events⟩)
  fetch cur t := ((l.fetch cur.item t.client).1, ⟨(l.fetch cur.item t.client).2, t.events⟩)
  closeCursor cur t := ((l.closeCursor cur.item t.client).1, ⟨(l.closeCursor cur.item t.client).2, t.events⟩)
  rollback conn t :=
    ((l.rollback conn.item t.client).1, ⟨(l.rollback conn.item t.client).2, t.events ++ [.rolledBack conn.number]⟩)
  close conn t :=
    ((l.close conn.item t.client).1, ⟨(l.close conn.item t.client).2, t.events ++ [.closed conn.number]⟩)

/-- The state of the driver of a library that is overseen. -/
abbrev OverseenState (τ ρ : Type) := ClientState (Overseen τ) (Numbered ρ)

namespace OverseenState

/-- What happened to the raw connections. -/
def events (s : OverseenState τ ρ) : List RawEvent := s.client.events

/-- The connections that wait in a pool or are leased from one. -/
inductive Holds (s : OverseenState τ ρ) : Nat → Prop
  | waiting {p : Pool (Numbered ρ)} {c : Numbered ρ} (pool : p ∈ s.pools) (idle : some c ∈ p.idle) : Holds s c.number
  | leased {lease : Lease (Numbered ρ)} {c : Numbered ρ} (made : lease ∈ s.leases) (out : lease.conn = some c) :
    Holds s c.number

section

variable {s s' : OverseenState τ ρ} {n : Nat}

theorem Holds.of_same (h : s'.Holds n) (pools : s'.pools = s.pools) (leases : s'.leases = s.leases) : s.Holds n := by
  cases h with
  | waiting pool idle => exact .waiting (pools ▸ pool) idle
  | leased made out => exact .leased (leases ▸ made) out

/-- What a pool holds that was put in the place of another. -/
theorem Holds.of_setPool {k : Nat} {p : Pool (Numbered ρ)} (h : OverseenState.Holds (s.setPool k p) n) :
    s.Holds n ∨ ∃ c, some c ∈ p.idle ∧ c.number = n := by
  cases h with
  | waiting pool idle =>
    rcases List.mem_or_eq_of_mem_set pool with pool | rfl
    · exact .inl (.waiting pool idle)
    · exact .inr ⟨_, idle, rfl⟩
  | leased made out => exact .inl (.leased made out)

theorem Holds.of_lease {k : Nat} {c : Numbered ρ} (h : OverseenState.Holds (s.lease k c).2 n) :
    s.Holds n ∨ c.number = n := by
  cases h with
  | waiting pool idle => exact .inl (.waiting pool idle)
  | leased made out =>
    rcases List.mem_append.1 made with made | made
    · exact .inl (.leased made out)
    · rw [List.mem_singleton.1 made] at out
      cases out
      exact .inr rfl

end

end OverseenState

/-! ## Connections that the driver leaves alone -/

/-- The connections `kept` are neither rolled back nor closed, wait in no pool and are not leased; what ran on any other
connection after the events `earlier` was taken back since, unless it is one of those that are `pending`. -/
structure Guarded (earlier : List RawEvent) (kept pending : List Nat) (s : OverseenState τ ρ) : Prop where
  grown : earlier <+: s.events
  made : ∀ n ∈ kept, n < s.events.length
  untouched : ∀ n ∈ kept, n ∉ s.events.filterMap RawEvent.undone?
  held : ∀ n, s.Holds n → n < s.events.length ∧ n ∉ kept
  apart : ∀ n ∈ pending, n < s.events.length ∧ n ∉ kept
  past : ∀ n ∈ s.events.filterMap RawEvent.undone?, n < s.events.length
  settled : ∀ before n sql after, s.events = earlier ++ (before ++ .executed n sql :: after) →
    n ∈ kept ∨ n ∈ pending ∨ n ∈ after.filterMap RawEvent.undone?

namespace Guarded

variable {earlier : List RawEvent} {kept kept' pending pending' : List Nat} {s s' : OverseenState τ ρ} {x : RawEvent}
  {n : Nat}

/-- At the beginning nothing has run since. -/
theorem begins (held : ∀ n, s.Holds n → n < s.events.length)
    (past : ∀ n ∈ s.events.filterMap RawEvent.undone?, n < s.events.length) : Guarded s.events [] [] s := by
  refine ⟨List.prefix_refl _, nofun, nofun, fun n holds => ⟨held n holds, nofun⟩, nofun, past, ?_⟩
  intro before n sql after cut
  have nothing := (List.append_eq_nil_iff.1 (List.self_eq_append_right.1 cut)).2
  cases nothing

/-- The order of the kept ones does not count. -/
theorem perm (h : Guarded earlier kept pending s) (p : kept'.Perm kept) : Guarded earlier kept' pending s := by
  have moved (n : Nat) : n ∈ kept' ↔ n ∈ kept := p.mem_iff
  refine ⟨h.grown, ?_, ?_, ?_, ?_, h.past, ?_⟩ <;> simp only [moved]
  · exact h.made
  · exact h.untouched
  · exact h.held
  · exact h.apart
  · exact h.settled

/-- Nothing happened, and what the driver holds now it held before, or it may hold it. -/
theorem same (h : Guarded earlier kept pending s) (events : s'.events = s.events)
    (held : ∀ n, s'.Holds n → s.Holds n ∨ n < s.events.length ∧ n ∉ kept) : Guarded earlier kept pending s' := by
  refine ⟨?_, ?_, ?_, fun n holds => ?_, ?_, ?_, ?_⟩ <;> rw [events]
  · exact h.grown
  · exact h.made
  · exact h.untouched
  · exact (held n holds).elim (h.held n) id
  · exact h.apart
  · exact h.past
  · exact h.settled

/-- One more event: it may take back what is pending, and what runs is pending then. -/
theorem adds (h : Guarded earlier kept pending s) (events : s'.events = s.events ++ [x])
    (held : ∀ n, s'.Holds n → s.Holds n ∨ n < s'.events.length ∧ n ∉ kept)
    (undoes : ∀ n, x.undone? = some n → n < s.events.length ∧ n ∉ kept)
    (runs : ∀ n sql, x = .executed n sql → n ∈ kept ∨ n ∈ pending')
    (fewer : ∀ n ∈ pending', n ∈ pending) (left : ∀ n ∈ pending, n ∈ pending' ∨ x.undone? = some n) :
    Guarded earlier kept pending' s' := by
  have longer : s'.events.length = s.events.length + 1 := by rw [events, List.length_append]; rfl
  have undone (xs : List RawEvent) (n : Nat) : n ∈ (xs ++ [x]).filterMap RawEvent.undone? ↔
      n ∈ xs.filterMap RawEvent.undone? ∨ x.undone? = some n := by
    rw [List.filterMap_append, List.mem_append, List.mem_filterMap (l := [x])]
    simp
  refine ⟨?_, fun n among => ?_, fun n among => ?_, fun n holds => ?_, fun n among => ?_, fun n among => ?_, ?_⟩
  · rw [events]
    exact h.grown.trans (List.prefix_append _ _)
  · have := h.made n among
    omega
  · rw [events, undone, not_or]
    exact ⟨h.untouched n among, fun taken => (undoes n taken).2 among⟩
  · rcases held n holds with holds | other
    · have := h.held n holds
      exact ⟨by omega, this.2⟩
    · exact other
  · have := h.apart n (fewer n among)
    exact ⟨by omega, this.2⟩
  · rw [events, undone] at among
    have : n < s.events.length := among.elim (h.past n) fun taken => (undoes n taken).1
    omega
  · intro before n sql after cut
    rw [events] at cut
    -- the statement is the new event, or it ran before
    rcases List.eq_nil_or_concat after with rfl | ⟨front, y, rfl⟩
    · rw [← List.append_assoc] at cut
      have last := (List.append_inj' cut rfl).2
      rcases runs n sql (List.singleton_inj.1 last) with keeps | runs
      · exact .inl keeps
      · exact .inr (.inl runs)
    · rw [List.concat_eq_append, ← List.cons_append, ← List.append_assoc, ← List.append_assoc] at cut
      obtain ⟨same, last⟩ := List.append_inj' cut rfl
      rw [List.concat_eq_append, ← List.singleton_inj.1 last, undone]
      rcases h.settled before n sql front (same.trans (List.append_assoc _ _ _)) with keeps | waits | taken
      · exact .inl keeps
      · rcases left n waits with waits | taken
        · exact .inr (.inl waits)
        · exact .inr (.inr (.inr taken))
      · exact .inr (.inr (.inl taken))

theorem opens (h : Guarded earlier kept pending s) (events : s'.events = s.events ++ [.opened])
    (held : ∀ n, s'.Holds n → s.Holds n) : Guarded earlier kept pending s' :=
  h.adds events (fun n holds => .inl (held n holds)) nofun nofun (fun _ => id) fun _ => .inl

theorem executes {sql : String} (h : Guarded earlier kept pending s) (runs : n ∈ kept ∨ n ∈ pending)
    (events : s'.events = s.events ++ [.executed n sql]) (held : ∀ n, s'.Holds n → s.Holds n) :
    Guarded earlier kept pending s' := by
  refine h.adds events (fun n holds => .inl (held n holds)) nofun (fun m sql' ran => ?_) (fun _ => id) fun _ => .inl
  cases ran
  exact runs

/-- The event takes back what ran on one of the pending connections. -/
theorem undoes (h : Guarded earlier kept (n :: pending) s) (taken : x.undone? = some n)
    (events : s'.events = s.events ++ [x]) (held : ∀ n, s'.Holds n → s.Holds n) : Guarded earlier kept pending s' := by
  refine h.adds events (fun n holds => .inl (held n holds)) (fun m taken' => ?_) (fun m sql ran => ?_)
    (fun m among => .tail _ among) fun m among => ?_
  · rw [taken] at taken'
    cases taken'
    exact h.apart n (.head _)
  · rw [ran] at taken
    cases taken
  · rcases List.mem_cons.1 among with rfl | among
    · exact .inr taken
    · exact .inl among

/-- A connection that is not kept may be pending. -/
theorem cons (h : Guarded earlier kept pending s) (other : n < s.events.length ∧ n ∉ kept) :
    Guarded earlier kept (n :: pending) s := by
  refine ⟨h.grown, h.made, h.untouched, h.held, fun m among => ?_, h.past, fun before m sql after cut => ?_⟩
  · rcases List.mem_cons.1 among with rfl | among
    · exact other
    · exact h.apart m among
  · rcases h.settled before m sql after cut with keeps | waits | taken
    · exact .inl keeps
    · exact .inr (.inl (.tail _ waits))
    · exact .inr (.inr taken)

/-- A kept connection is pending once it is not kept any more. -/
theorem releases (h : Guarded earlier (n :: kept) pending s) (once : n ∉ kept) :
    Guarded earlier kept (n :: pending) s := by
  refine ⟨h.grown, fun m among => h.made m (.tail _ among), fun m among => h.untouched m (.tail _ among),
    fun m holds => ?_, fun m among => ?_, h.past, fun before m sql after cut => ?_⟩
  · have := h.held m holds
    exact ⟨this.1, fun among => this.2 (.tail _ among)⟩
  · rcases List.mem_cons.1 among with rfl | among
    · exact ⟨h.made m (.head _), once⟩
    · have := h.apart m among
      exact ⟨this.1, fun among => this.2 (.tail _ among)⟩
  · rcases h.settled before m sql after cut with keeps | waits | taken
    · rcases List.mem_cons.1 keeps with rfl | keeps
      · exact .inr (.inl (.head _))
      · exact .inl keeps
    · exact .inr (.inl (.tail _ waits))
    · exact .inr (.inr taken)

/-- A connection that was just opened may be kept. -/
theorem keeps (h : Guarded earlier kept pending s) (events : s'.events = s.events ++ [.opened])
    (held : ∀ n, s'.Holds n → s.Holds n) : Guarded earlier (s.events.length :: kept) pending s' := by
  have opened := h.opens events held
  have fresh : s.events.length ∉ s'.events.filterMap RawEvent.undone? := by
    rw [events, List.filterMap_append]
    intro taken
    rcases List.mem_append.1 taken with taken | taken
    · exact Nat.lt_irrefl _ (h.past _ taken)
    · cases taken
  have below (m : Nat) (other : m < s.events.length ∧ m ∉ kept) : m ∉ s.events.length :: kept := by
    intro among
    rcases List.mem_cons.1 among with rfl | among
    · exact Nat.lt_irrefl _ other.1
    · exact other.2 among
  refine ⟨opened.grown, fun n among => ?_, fun n among => ?_, fun n holds => ?_, fun n among => ?_, opened.past, ?_⟩
  · rcases List.mem_cons.1 among with rfl | among
    · rw [events, List.length_append]
      exact Nat.lt_succ_self _
    · exact opened.made n among
  · rcases List.mem_cons.1 among with rfl | among
    · exact fresh
    · exact opened.untouched n among
  · exact ⟨(opened.held n holds).1, below n (h.held n (held n holds))⟩
  · exact ⟨(opened.apart n among).1, below n (h.apart n among)⟩
  · exact fun before n sql after cut => (opened.settled before n sql after cut).imp_left (.tail _)

theorem setPool {k : Nat} {p : Pool (Numbered ρ)} (h : Guarded earlier kept pending s)
    (idle : ∀ c, some c ∈ p.idle → c.number < s.events.length ∧ c.number ∉ kept) :
    Guarded earlier kept pending (s.setPool k p) := by
  refine h.same rfl fun n holds => ?_
  rcases holds.of_setPool with holds | ⟨c, among, rfl⟩
  · exact .inl holds
  · exact .inr (idle c among)

theorem lease {k : Nat} {c : Numbered ρ} (h : Guarded earlier kept pending s)
    (other : c.number < s.events.length ∧ c.number ∉ kept) : Guarded earlier kept pending (s.lease k c).2 := by
  refine h.same rfl fun n holds => ?_
  rcases holds.of_lease with holds | rfl
  · exact .inl holds
  · exact .inr other

end Guarded

/-! ## What a pool hands out -/

theorem Pool.idle_of_waiting {p rest : Pool ρ} {record : Option ρ} (taken : p.take = .waiting record rest) :
    p.idle = record :: rest.idle := by
  unfold take at taken
  split at taken
  · cases taken
  · split at taken
    · next idle =>
      cases taken
      exact idle
    · split at taken
      · split at taken <;> cases taken
      · cases taken

theorem Pool.idle_of_new {p rest : Pool ρ} (taken : p.take = .new rest) : rest.idle = p.idle := by
  unfold take at taken
  split at taken
  · cases taken
  · split at taken
    · cases taken
    · split at taken
      · split at taken <;> cases taken
      · cases taken
        rfl

/-! ## Calls to the library -/

namespace Client

variable {l : Client τ ρ γ} {earlier : List RawEvent} {kept pending : List Nat} {s : OverseenState τ ρ}

theorem connect_cases (l : Client τ ρ γ) (cs : String) (t : Overseen τ) :
    (∃ c u, l.overseen.connect cs t = (.ok c, u) ∧ c.number = t.events.length ∧ u.events = t.events ++ [.opened]) ∨
      ∃ f u, l.overseen.connect cs t = (.error f, u) ∧ u.events = t.events := by
  rcases made : l.connect cs t.client with ⟨f | conn, u⟩
  · exact .inr ⟨f, ⟨u, t.events⟩, by simp only [overseen, made], rfl⟩
  · exact .inl ⟨⟨_, conn⟩, ⟨u, t.events ++ [.opened]⟩, by simp only [overseen, made], rfl, rfl⟩

/-- A connection that was just opened is kept nowhere. -/
theorem guarded_connected (h : Guarded earlier kept pending s) {u : Overseen τ} {c : Numbered ρ}
    (number : c.number = s.events.length) (events : u.events = s.events ++ [.opened]) :
    Guarded earlier kept pending (s.withClient u) ∧
      c.number < u.events.length ∧ c.number ∉ kept := by
  refine ⟨h.opens events fun n holds => holds.of_same rfl rfl, ?_, fun among => ?_⟩
  · rw [events, number, List.length_append]
    exact Nat.lt_succ_self _
  · have := h.made _ among
    omega

/-- A statement that runs through a cursor runs on its connection. -/
theorem events_runThrough (c : Caught) (cur : Numbered γ) (sql : String) (params : Value) (t : Overseen τ) :
    (l.overseen.runThrough c cur sql params t).2.events = t.events ∨
      (l.overseen.runThrough c cur sql params t).2.events = t.events ++ [.executed cur.number sql] := by
  unfold runThrough
  cases valuesOf c params with
  | error e => exact .inl rfl
  | ok vs =>
    dsimp only [overseen]
    rcases l.execute cur.item sql vs t.client with ⟨f | columns, u⟩
    · exact .inl rfl
    · cases columns with
      | none => exact .inr rfl
      | some columns =>
        dsimp only
        rcases l.fetch cur.item u with ⟨f | rows, v⟩
        · exact .inr rfl
        · exact .inr rfl

theorem events_query (c : Caught) (conn : Numbered ρ) (sql : String) (params : Value) (t : Overseen τ) :
    (l.overseen.query c conn sql params t).2.events = t.events ∨
      (l.overseen.query c conn sql params t).2.events = t.events ++ [.executed conn.number sql] := by
  rcases made : l.cursor conn.item t.client with ⟨f | cur, u⟩
  · exact .inl (by simp only [query, overseen, made]; rfl)
  · have ran := events_runThrough (l := l) c ⟨conn.number, cur⟩ sql params ⟨u, t.events⟩
    have made' : l.overseen.cursor conn t = (.ok ⟨conn.number, cur⟩, ⟨u, t.events⟩) := by
      simp only [overseen, made]
      rfl
    rw [query, made']
    dsimp only
    rcases through : l.overseen.runThrough c ⟨conn.number, cur⟩ sql params ⟨u, t.events⟩ with ⟨r, v⟩
    rw [through] at ran
    -- closing the cursor adds nothing, however it ends
    have closed : (l.overseen.closeCursor ⟨conn.number, cur⟩ v).2.events = v.events := rfl
    rcases closing : l.overseen.closeCursor ⟨conn.number, cur⟩ v with ⟨f | _, v'⟩ <;>
    · rw [closing] at closed
      dsimp only at closed ran ⊢
      rw [closed]
      exact ran

/-! ## Calls to the driver -/

/-- A connection that was opened may be kept from then on. -/
theorem guarded_openRaw (h : Guarded earlier kept pending s) (cs : String) :
    Guarded earlier kept pending (l.overseen.openRaw cs s).2 ∧
      ∀ c, (l.overseen.openRaw cs s).1 = .ok c → ∃ conn caught, c = .raw conn caught ∧ conn.number ∉ kept ∧
        Guarded earlier (conn.number :: kept) pending (l.overseen.openRaw cs s).2 := by
  obtain ⟨conn, u, made, number, events⟩ | ⟨f, u, made, same⟩ := connect_cases l cs s.client
  · rw [openRaw, made]
    refine ⟨(guarded_connected h number events).1, fun c answered => ?_⟩
    cases answered
    refine ⟨conn, .ofClient, rfl, (guarded_connected h number events).2.2, ?_⟩
    rw [number]
    exact h.keeps events fun n holds => holds.of_same rfl rfl
  · have still : Guarded earlier kept pending (s.withClient u) :=
      h.same same fun n holds => .inl (holds.of_same rfl rfl)
    rw [openRaw, made]
    cases f <;> exact ⟨still, nofun⟩

theorem guarded_connect (h : Guarded earlier kept pending s) (available : Bool) (setup : PoolSetup) (cs : String) :
    Guarded earlier kept pending ((l.overseen.driver available setup).connect cs s).2 ∧
      ∀ c, ((l.overseen.driver available setup).connect cs s).1 = .ok c → ∃ conn caught, c = .raw conn caught ∧
        conn.number ∉ kept ∧
        Guarded earlier (conn.number :: kept) pending ((l.overseen.driver available setup).connect cs s).2 := by
  cases available with
  | false => exact ⟨h, nofun⟩
  | true => exact guarded_openRaw h cs

theorem guarded_createPool (h : Guarded earlier kept pending s) (available : Bool) (setup : PoolSetup) (cs : String) :
    Guarded earlier kept pending ((l.overseen.driver available setup).createPool cs s).2 := by
  cases available with
  | false => exact h
  | true =>
    refine h.same rfl fun n holds => .inl ?_
    cases holds with
    | waiting pool idle =>
      rcases List.mem_append.1 pool with pool | pool
      · exact .waiting pool idle
      · rw [List.mem_singleton.1 pool] at idle
        cases idle
    | leased made out => exact .leased made out

/-- What was leased is held by the lease. -/
theorem guarded_lease (h : Guarded earlier kept pending s) (k : Nat) {c : Numbered ρ}
    (other : c.number < s.events.length ∧ c.number ∉ kept) :
    Guarded earlier kept pending (s.lease k c).2 ∧
      ∀ c', (Except.ok (s.lease k c).1 : Except Failure _) = .ok c' →
        ∃ n conn, c' = .leased n ∧ (s.lease k c).2.leases[n]? = some ⟨k, some conn⟩ := by
  refine ⟨h.lease other, fun c' answered => ?_⟩
  cases answered
  exact ⟨_, c, rfl, List.getElem?_concat_length⟩

/-- What was opened for a pool, some of whose connections stay, may be leased. -/
theorem guarded_refilled (h : Guarded earlier kept pending s) {k : Nat} {p rest : Pool (Numbered ρ)}
    (found : p ∈ s.pools) (stays : ∀ c, some c ∈ rest.idle → some c ∈ p.idle) {u : Overseen τ} {c : Numbered ρ}
    (number : c.number = s.events.length) (events : u.events = s.events ++ [.opened]) :
    Guarded earlier kept pending (((s.withClient u).setPool k rest).lease k c).2 ∧
      ∀ c', (Except.ok (((s.withClient u).setPool k rest).lease k c).1 : Except Failure _) = .ok c' →
        ∃ n conn, c' = .leased n ∧
          (((s.withClient u).setPool k rest).lease k c).2.leases[n]? = some ⟨k, some conn⟩ := by
  obtain ⟨opened, other⟩ := guarded_connected h number events
  exact guarded_lease (opened.setPool fun c idle => opened.held _ (.waiting found (stays c idle))) k other

theorem guarded_acquire (h : Guarded earlier kept pending s) (k : Nat) :
    Guarded earlier kept pending (l.overseen.acquire k s).2 ∧
      ∀ c, (l.overseen.acquire k s).1 = .ok c →
        ∃ n conn, c = .leased n ∧ (l.overseen.acquire k s).2.leases[n]? = some ⟨k, some conn⟩ := by
  unfold acquire
  cases found : s.pools[k]? with
  | none => exact ⟨h, nofun⟩
  | some p =>
    have here := List.mem_of_getElem? found
    have idles (c : Numbered ρ) (idle : some c ∈ p.idle) : c.number < s.events.length ∧ c.number ∉ kept :=
      h.held _ (.waiting here idle)
    have connecting := connect_cases l p.connectionString s.client
    dsimp only
    cases taken : p.take with
    | exhausted => exact ⟨h, nofun⟩
    | endless => exact ⟨h, nofun⟩
    | noTime => exact ⟨h, nofun⟩
    | waiting record rest =>
      have idle := Pool.idle_of_waiting taken
      have stays (c : Numbered ρ) (among : some c ∈ rest.idle) : some c ∈ p.idle := by
        rw [idle]
        exact .tail _ among
      cases record with
      | some conn =>
        refine guarded_lease (h.setPool fun c among => idles c (stays c among)) k (idles conn ?_)
        rw [idle]
        exact .head _
      | none =>
        obtain ⟨conn, u, made, number, events⟩ | ⟨f, u, made, same⟩ := connecting
        · dsimp only
          rw [made]
          exact guarded_refilled h here stays number events
        · dsimp only
          rw [made]
          refine ⟨Guarded.setPool (h.same same fun n holds => .inl (holds.of_same rfl rfl)) fun c among => ?_, nofun⟩
          have among' : some c ∈ rest.idle := (List.mem_append.1 among).resolve_right (by simp)
          show c.number < u.events.length ∧ c.number ∉ kept
          rw [same]
          exact idles c (stays c among')
    | new rest =>
      obtain ⟨conn, u, made, number, events⟩ | ⟨f, u, made, same⟩ := connecting
      · dsimp only
        rw [made]
        exact guarded_refilled h here (fun c among => Pool.idle_of_new taken ▸ among) number events
      · dsimp only
        rw [made]
        exact ⟨h.same same fun n holds => .inl (holds.of_same rfl rfl), nofun⟩

/-- A statement runs on a connection that is kept, or on one that is leased and then pending. -/
theorem guarded_queryOn_raw (h : Guarded earlier kept pending s) {conn : Numbered ρ} (caught : Caught)
    (runs : conn.number ∈ kept) (sql : String) (params : Value) :
    Guarded earlier kept pending (l.overseen.queryOn (.raw conn caught) sql params s).2 := by
  unfold queryOn
  dsimp only
  rcases events_query (l := l) caught conn sql params s.client with same | ran
  · exact h.same same fun n holds => .inl (holds.of_same rfl rfl)
  · exact h.executes (.inl runs) ran fun n holds => holds.of_same rfl rfl

theorem guarded_queryOn_leased (h : Guarded earlier kept pending s) {n k : Nat} {conn : Numbered ρ}
    (lease : s.leases[n]? = some ⟨k, some conn⟩) (sql : String) (params : Value) :
    Guarded earlier kept (conn.number :: pending) (l.overseen.queryOn (.leased n) sql params s).2 ∧
      (l.overseen.queryOn (.leased n) sql params s).2.leases = s.leases := by
  have open' := h.cons (h.held conn.number (.leased (List.mem_of_getElem? lease) rfl))
  unfold queryOn
  dsimp only
  rw [lease]
  refine ⟨?_, rfl⟩
  rcases events_query (l := l) .ofClient conn sql params s.client with same | ran
  · exact open'.same same fun n holds => .inl (holds.of_same rfl rfl)
  · exact open'.executes (.inr (.head _)) ran fun n holds => holds.of_same rfl rfl

/-- Closing a connection takes back what is pending on it. -/
theorem guarded_close_raw {conn : Numbered ρ} (h : Guarded earlier kept (conn.number :: pending) s) (caught : Caught) :
    Guarded earlier kept pending (l.overseen.closeHandle (.raw conn caught) s).2 := by
  have closed : Guarded earlier kept pending (s.withClient (l.overseen.close conn s.client).2) :=
    h.undoes (x := .closed conn.number) rfl rfl fun n holds => holds.of_same rfl rfl
  unfold closeHandle
  dsimp only
  unfold closeRaw guarded
  split <;> next ran => rw [ran] at closed; exact closed

theorem guarded_discard (h : Guarded earlier kept pending s) (conn : Option (Numbered ρ))
    (other : ∀ c, conn = some c → c.number < s.events.length ∧ c.number ∉ kept) :
    Guarded earlier kept pending (s.withClient (l.overseen.discard conn s.client)) := by
  cases conn with
  | none => exact h
  | some c =>
    exact (h.cons (other c rfl)).undoes (x := .closed c.number) rfl rfl fun n holds => holds.of_same rfl rfl

/-- Rolling a connection back takes back what is pending on it. -/
theorem guarded_reset {conn : Numbered ρ} (h : Guarded earlier kept (conn.number :: pending) s) :
    Guarded earlier kept pending (s.withClient (l.overseen.reset conn s.client).2) ∧
      conn.number < (l.overseen.reset conn s.client).2.events.length ∧
      ∀ c, (l.overseen.reset conn s.client).1 = some c → c = conn := by
  have rolled : Guarded earlier kept pending (s.withClient (l.overseen.rollback conn s.client).2) :=
    h.undoes (x := .rolledBack conn.number) rfl rfl fun n holds => holds.of_same rfl rfl
  have other := h.apart conn.number (.head _)
  have longer : conn.number < (l.overseen.rollback conn s.client).2.events.length := by
    show _ < (s.events ++ [RawEvent.rolledBack conn.number]).length
    rw [List.length_append]
    exact Nat.lt_succ_of_lt other.1
  unfold reset
  rcases ran : l.overseen.rollback conn s.client with ⟨f | _, u⟩ <;> rw [ran] at rolled longer
  · refine ⟨guarded_discard (s := s.withClient u) rolled (some conn) fun c is => ?_, ?_, nofun⟩
    · cases is
      exact ⟨longer, other.2⟩
    · show _ < (u.events ++ [RawEvent.closed conn.number]).length
      rw [List.length_append]
      exact Nat.lt_succ_of_lt longer
  · refine ⟨rolled, longer, fun c is => ?_⟩
    cases is
    rfl

theorem guarded_giveBack {conn : Numbered ρ} (h : Guarded earlier kept (conn.number :: pending) s) (k : Nat) :
    Guarded earlier kept pending (l.overseen.giveBack k conn s) := by
  have taken := guarded_reset (l := l) h
  have apart := (h.apart conn.number (.head _)).2
  unfold giveBack
  rcases ran : l.overseen.reset conn s.client with ⟨record, u⟩
  rw [ran] at taken
  obtain ⟨reset, longer, only⟩ := taken
  have other (c : Numbered ρ) (is : record = some c) : c.number < u.events.length ∧ c.number ∉ kept := by
    rw [only c is]
    exact ⟨longer, apart⟩
  dsimp only
  cases found : (s.withClient u).pools[k]? with
  | none => exact reset
  | some p =>
    have here := List.mem_of_getElem? found
    dsimp only
    split
    · refine reset.setPool fun c among => ?_
      rcases List.mem_append.1 among with idle | back
      · exact reset.held _ (.waiting here idle)
      · exact other c (List.mem_singleton.1 back).symm
    · have discarded := guarded_discard (l := l) reset record other
      exact discarded.setPool fun c idle => discarded.held _ (.waiting here idle)

theorem guarded_close_leased {n k : Nat} {conn : Numbered ρ} (h : Guarded earlier kept (conn.number :: pending) s)
    (lease : s.leases[n]? = some ⟨k, some conn⟩) :
    Guarded earlier kept pending (l.overseen.closeHandle (.leased n) s).2 := by
  have emptied : Guarded earlier kept (conn.number :: pending) { s with leases := s.leases.set n ⟨k, none⟩ } := by
    refine h.same rfl fun m holds => .inl ?_
    cases holds with
    | waiting pool idle => exact .waiting pool idle
    | leased made out =>
      rcases List.mem_or_eq_of_mem_set made with made | rfl
      · exact .leased made out
      · cases out
  unfold closeHandle
  dsimp only
  rw [lease]
  exact guarded_giveBack emptied k

/-- Whatever waits in a pool may be closed. -/
theorem guarded_discardAll {records : List (Option (Numbered ρ))} (h : Guarded earlier kept pending s)
    (waiting : ∀ c, some c ∈ records → s.Holds c.number) :
    Guarded earlier kept pending
      (s.withClient (records.foldl (fun t record => l.overseen.discard record t) s.client)) := by
  induction records generalizing s with
  | nil => exact h
  | cons record records ih =>
    have first := guarded_discard (l := l) h record fun c is => h.held _ (waiting c (is ▸ .head _))
    exact ih first fun c among => (waiting c (.tail _ among)).of_same rfl rfl

theorem guarded_disposePool (h : Guarded earlier kept pending s) (k : Nat) :
    Guarded earlier kept pending (l.overseen.disposePool k s).2 := by
  unfold disposePool
  cases found : s.pools[k]? with
  | none => exact h
  | some p =>
    refine Guarded.setPool (guarded_discardAll h fun c idle => ?_) fun c idle => ?_
    · exact .waiting (List.mem_of_getElem? found) idle
    · cases idle

end Client

end TableGateway
