import TableGateway.Client.Driver

/-!
# What the driver of a client library reports

A driver may fail with errors of the engine, and with nothing else. `Client.watched` works as the library inside it and
keeps a record of the faults that it raised, each with the call that raised it. While the library raises nothing but
errors of its own, what the driver of it reports is an error of the engine, with such an error as its cause, unless the
error was raised around a statement, when its cursor was made or closed. That one leaves the driver as it is, and hides
how the statement itself ended.

- **`ends_query`**: how a statement ends;
- **`extends_giveBack`**: what is raised while a connection goes back to its pool;
- **`driver_reports_iff`**: the driver reports what the library raised exactly unless it was raised around a statement.
-/

namespace TableGateway

variable {σ τ ρ γ α : Type}

/-! ## Faults that a library raises -/

/-- The calls to a client library. -/
inductive ClientCall where
  | connect
  | cursor
  | execute
  | fetch
  | closeCursor
  | rollback
  | close
  deriving DecidableEq

namespace ClientCall

/-- Does the statement run in this call? -/
def runs : ClientCall → Bool
  | .execute | .fetch => true
  | _ => false

/-- Does the call make or close the cursor of a statement? -/
def isAround : ClientCall → Bool
  | .cursor | .closeCursor => true
  | _ => false

end ClientCall

/-- A fault, and the call that raised it. -/
structure Raised where
  call : ClientCall
  fault : Fault

/-- A library's state and the faults that it has raised so far. -/
structure Watched (τ : Type) where
  client : τ
  raised : List Raised := []

/-- Records the fault that a call came to, if it came to one. -/
def Watched.doing (t : Watched τ) (call : ClientCall) (result : Except Fault α × τ) : Except Fault α × Watched τ :=
  (result.1, ⟨result.2, t.raised ++ match result.1 with
    | .ok _ => []
    | .error f => [⟨call, f⟩]⟩)

namespace Client

/-- The library with a record of its faults. -/
def watched (l : Client τ ρ γ) : Client (Watched τ) ρ γ where
  remark := l.remark
  connect cs t := t.doing .connect (l.connect cs t.client)
  cursor conn t := t.doing .cursor (l.cursor conn t.client)
  execute cur sql vs t := t.doing .execute (l.execute cur sql vs t.client)
  fetch cur t := t.doing .fetch (l.fetch cur t.client)
  closeCursor cur t := t.doing .closeCursor (l.closeCursor cur t.client)
  rollback conn t := t.doing .rollback (l.rollback conn t.client)
  close conn t := t.doing .close (l.close conn t.client)

/-- All calls but the one that rolls back raise nothing but the library's own errors. -/
structure RaisesOwn (l : Client τ ρ γ) : Prop where
  connect : ∀ cs t f, (l.connect cs t).1 = .error f → ∃ m, f = .client m
  cursor : ∀ conn t f, (l.cursor conn t).1 = .error f → ∃ m, f = .client m
  execute : ∀ cur sql vs t f, (l.execute cur sql vs t).1 = .error f → ∃ m, f = .client m
  fetch : ∀ cur t f, (l.fetch cur t).1 = .error f → ∃ m, f = .client m
  closeCursor : ∀ cur t f, (l.closeCursor cur t).1 = .error f → ∃ m, f = .client m
  close : ∀ conn t f, (l.close conn t).1 = .error f → ∃ m, f = .client m

/-- A call ends well, or its error goes into the record. -/
theorem doing_cases {result : Except Fault α × τ} {y : Except Fault α × Watched τ} {t : Watched τ} {call : ClientCall}
    (doing : y = t.doing call result) (own : ∀ f, result.1 = .error f → ∃ m, f = .client m) :
    (∃ a u, y = (.ok a, u) ∧ u.raised = t.raised) ∨
      ∃ m u, y = (.error (.client m), u) ∧ u.raised = t.raised ++ [⟨call, .client m⟩] := by
  obtain ⟨r, u⟩ := result
  cases r with
  | ok a => exact .inl ⟨a, _, doing, List.append_nil _⟩
  | error f =>
    obtain ⟨m, rfl⟩ := own f rfl
    exact .inr ⟨m, _, doing, rfl⟩

/-! ## Statements -/

/-- How a statement ends, with what was raised meanwhile: an error raised around it takes the place of all else. -/
inductive Ends : List Raised → Except Failure (List Value) → Prop
  | answered (rows : List Value) : Ends [] (.ok rows)
  | reported {call : ClientCall} {m : String} (runs : call.runs = true) :
    Ends [⟨call, .client m⟩] (.error (.refused (.engine m "" (some (.client m)))))
  | escaped {before : List Raised} {call : ClientCall} {m : String} (around : call.isAround = true) :
    Ends (before ++ [⟨call, .client m⟩]) (.error (.broken (.client m)))

variable {l : Client τ ρ γ} {c : Caught}

theorem ends_runThrough (own : l.RaisesOwn) (cur : γ) (sql : String) {params : Value} {vs : Option (List Value)}
    (values : valuesOf c params = .ok vs) (t : Watched τ) :
    ∃ r u news, l.watched.runThrough c cur sql params t = (r, u) ∧ u.raised = t.raised ++ news ∧ Ends news r := by
  unfold runThrough
  rw [values]
  dsimp only
  obtain ⟨columns, u, ran, same⟩ | ⟨m, u, ran, raised⟩ :=
    doing_cases (y := l.watched.execute cur sql vs t) rfl (own.execute cur sql vs t.client)
  · rw [ran]
    cases columns with
    | none => exact ⟨_, u, [], rfl, by rw [same, List.append_nil], .answered []⟩
    | some columns =>
      dsimp only
      obtain ⟨rows, v, ran, same'⟩ | ⟨m, v, ran, raised⟩ :=
        doing_cases (y := l.watched.fetch cur u) rfl (own.fetch cur u.client)
      · rw [ran]
        exact ⟨_, v, [], rfl, by rw [same', same, List.append_nil], .answered _⟩
      · rw [ran]
        dsimp only
        rw [failureOf_client]
        exact ⟨_, v, _, rfl, by rw [raised, same], .reported rfl⟩
  · rw [ran]
    dsimp only
    rw [failureOf_client]
    exact ⟨_, u, _, rfl, raised, .reported rfl⟩

theorem ends_query (own : l.RaisesOwn) (conn : ρ) (sql : String) {params : Value} {vs : Option (List Value)}
    (values : valuesOf c params = .ok vs) (t : Watched τ) :
    ∃ r u news, l.watched.query c conn sql params t = (r, u) ∧ u.raised = t.raised ++ news ∧ Ends news r := by
  obtain ⟨cur, u, made, same⟩ | ⟨m, u, made, raised⟩ :=
    doing_cases (y := l.watched.cursor conn t) rfl (own.cursor conn t.client)
  · obtain ⟨r, v, news, ran, adds, ended⟩ := ends_runThrough own cur sql values u
    rw [query, made]
    dsimp only
    rw [ran]
    dsimp only
    obtain ⟨_, v', closed, same'⟩ | ⟨m, v', closed, raised⟩ :=
      doing_cases (y := l.watched.closeCursor cur v) rfl (own.closeCursor cur v.client)
    · rw [closed]
      exact ⟨r, v', news, rfl, by rw [same', adds, same], ended⟩
    · -- whatever the statement came to is lost
      rw [closed]
      exact ⟨_, v', news ++ [⟨.closeCursor, .client m⟩], rfl, by rw [raised, adds, same, List.append_assoc],
        .escaped rfl⟩
  · exact ⟨_, u, [] ++ [⟨.cursor, .client m⟩], query_cursor_fails made, raised, .escaped rfl⟩

/-- The values that the driver is given can be passed on. -/
theorem exists_valuesOf (c : Caught) (params : Option (List Value)) :
    ∃ vs, valuesOf c (match params with
      | some vs => .list vs
      | none => .null) = .ok vs := by
  cases params with
  | none => exact ⟨none, rfl⟩
  | some vs =>
    unfold valuesOf
    by_cases given : (Value.list vs).isTruthy = true
    · exact ⟨some vs, if_pos given⟩
    · exact ⟨none, if_neg given⟩

/-! ## Giving back -/

/-- From the first state to the second, only rolling back and closing connections has raised anything. -/
def Extends (t u : Watched τ) : Prop :=
  ∃ news, u.raised = t.raised ++ news ∧ ∀ x ∈ news, x.call.runs = false ∧ x.call.isAround = false

namespace Extends

theorem refl (t : Watched τ) : Extends t t := ⟨[], (List.append_nil _).symm, fun _ among => by cases among⟩

theorem trans {t u v : Watched τ} (h : Extends t u) (g : Extends u v) : Extends t v := by
  obtain ⟨news, raised, aside⟩ := h
  obtain ⟨news', raised', aside'⟩ := g
  refine ⟨news ++ news', by rw [raised', raised, List.append_assoc], fun x among => ?_⟩
  rcases List.mem_append.1 among with among | among
  · exact aside x among
  · exact aside' x among

theorem doing (t : Watched τ) {call : ClientCall} (aside : call.runs = false ∧ call.isAround = false)
    (result : Except Fault α × τ) : Extends t (t.doing call result).2 := by
  refine ⟨_, rfl, fun x among => ?_⟩
  split at among
  · cases among
  · rw [List.mem_singleton.1 among]
    exact aside

end Extends

theorem extends_discard (l : Client τ ρ γ) (conn : Option ρ) (t : Watched τ) :
    Extends t (l.watched.discard conn t) := by
  cases conn with
  | none => exact .refl t
  | some conn => exact .doing t ⟨rfl, rfl⟩ (l.close conn t.client)

theorem extends_reset (l : Client τ ρ γ) (conn : ρ) (t : Watched τ) : Extends t (l.watched.reset conn t).2 := by
  have rolled : Extends t (l.watched.rollback conn t).2 := .doing t ⟨rfl, rfl⟩ (l.rollback conn t.client)
  unfold reset
  rcases ran : l.watched.rollback conn t with ⟨_ | _, u⟩
  · rw [ran] at rolled
    exact rolled.trans (extends_discard l _ u)
  · rw [ran] at rolled
    exact rolled

theorem extends_giveBack (l : Client τ ρ γ) (n : Nat) (conn : ρ) (s : ClientState (Watched τ) ρ) :
    Extends s.client (l.watched.giveBack n conn s).client := by
  have reset := extends_reset l conn s.client
  unfold giveBack
  dsimp only
  split
  · exact reset
  · split
    · exact reset
    · exact reset.trans (extends_discard l _ _)

end Client

/-! ## Calls to the driver -/

/-- A call to the driver of a client library. -/
inductive DriverCall (ρ : Type) where
  | connect (cs : String)
  | acquire (pool : Nat)
  | query (conn : Handle ρ) (sql : String) (params : Option (List Value))
  | close (conn : Handle ρ)

namespace DriverCall

/-- How a call ends, whatever it answers. -/
def ended (result : Except Failure α × σ) : Except Failure Unit × σ := (result.1.map fun _ => (), result.2)

/-- Calls the driver. -/
def run (d : Driver σ (Handle ρ) Nat) (s : σ) : DriverCall ρ → Except Failure Unit × σ
  | .connect cs => ended (d.connect cs s)
  | .acquire pool => ended (d.acquire pool s)
  | .query conn sql params => ended (d.query conn sql params s)
  | .close conn => ended (d.close conn s)

/-- May the call be made? A pool has to be there, and its limits must say what to do when nothing waits; and a statement
needs a connection that was not given back. -/
def Sound (s : ClientState τ ρ) : DriverCall ρ → Prop
  | .acquire pool => ∃ p, s.pools[pool]? = some p ∧ p.take ≠ .endless ∧ p.take ≠ .noTime
  | .query (.leased n) _ _ => ((s.leases[n]?).bind Lease.conn).isSome = true
  | _ => True

/-- The call has ended well, or with an error of the engine: its cause was raised by the library meanwhile, or it is
that the pool has nothing to lease. -/
inductive Reports (c : DriverCall ρ) (s : ClientState τ ρ) (news : List Raised) : Except Failure Unit → Prop
  | answered : Reports c s news (.ok ())
  | caused {e : Error} {call : ClientCall} {m : String} (raised : ⟨call, .client m⟩ ∈ news)
    (driver : e.isDriver = true) (cause : e.cause = some (.client m)) : Reports c s news (.error (.refused e))
  | exhausted {pool : Nat} {p : Pool ρ} {e : Error} (acquires : c = .acquire pool) (found : s.pools[pool]? = some p)
    (driver : e.isDriver = true) (cause : e.cause = some (.exhausted p.exhaustedText)) :
    Reports c s news (.error (.refused e))

/-- What a call comes to, given what the library raised meanwhile. It reports, exactly when it may be made and nothing
was raised around a statement; and in that case what was raised by a statement is the cause of what it reports. -/
structure Settled (c : DriverCall ρ) (s : ClientState τ ρ) (news : List Raised) (r : Except Failure Unit) : Prop where
  reports : Reports c s news r ↔ c.Sound s ∧ ∀ x ∈ news, x.call.isAround = false
  carries : (∀ x ∈ news, x.call.isAround = false) → ∀ x ∈ news, x.call.runs = true →
    ∃ e m, r = .error (.refused e) ∧ e.isDriver = true ∧ x.fault = .client m ∧ e.cause = some (.client m)

section

variable {c : DriverCall ρ} {s : ClientState τ ρ} {news : List Raised} {r : Except Failure Unit}

theorem not_reports_broken {f : Fault} : ¬Reports c s news (.error (.broken f)) := fun h => by cases h

/-- A call that has no part in a statement. -/
theorem Settled.aside (aside : ∀ x ∈ news, x.call.runs = false ∧ x.call.isAround = false)
    (reports : Reports c s news r ↔ c.Sound s) : Settled c s news r := by
  refine ⟨⟨fun h => ⟨reports.1 h, fun x among => (aside x among).2⟩, fun h => reports.2 h.1⟩, fun _ x among runs => ?_⟩
  rw [(aside x among).1] at runs
  cases runs

/-- A statement. -/
theorem Settled.of_ends {rows : Except Failure (List Value)} (sound : c.Sound s) (h : Client.Ends news rows) :
    Settled c s news (rows.map fun _ => ()) := by
  cases h with
  | answered rows =>
    refine ⟨⟨fun _ => ⟨sound, fun x among => (by cases among)⟩, fun _ => .answered⟩, fun _ x among => ?_⟩
    cases among
  | @reported call m runs =>
    have aside : call.isAround = false := by cases call <;> first | rfl | cases runs
    refine ⟨⟨fun _ => ⟨sound, fun x among => ?_⟩, fun _ => .caused (.head _) rfl rfl⟩, fun _ x among _ => ?_⟩
    · rw [List.mem_singleton.1 among]
      exact aside
    · rw [List.mem_singleton.1 among]
      exact ⟨_, m, rfl, rfl, rfl, rfl⟩
  | @escaped before call m around =>
    have raised : ¬∀ x ∈ before ++ [(⟨call, .client m⟩ : Raised)], x.call.isAround = false := by
      intro aside
      have := aside _ (List.mem_append_right _ (.head _))
      rw [around] at this
      cases this
    exact ⟨⟨fun h => absurd h not_reports_broken, fun h => absurd h.2 raised⟩, fun aside => absurd aside raised⟩

end

end DriverCall

namespace Client

variable {l : Client τ ρ γ}

open DriverCall

/-- What a call comes to that raises nothing. -/
theorem settled_silent {c : DriverCall ρ} {s u : ClientState (Watched τ) ρ} {r : Except Failure Unit}
    (silent : u.client.raised = s.client.raised) (reports : Reports c s [] r ↔ c.Sound s) :
    ∃ news, u.client.raised = s.client.raised ++ news ∧ Settled c s news r :=
  ⟨[], by rw [silent, List.append_nil], .aside (fun _ among => (by cases among)) reports⟩

/-- What a call comes to that raises one error, which has no part in a statement, and that reports it. -/
theorem settled_raised {c : DriverCall ρ} {s u : ClientState (Watched τ) ρ} {call : ClientCall} {m : String} {e : Error}
    (raised : u.client.raised = s.client.raised ++ [⟨call, .client m⟩])
    (aside : call.runs = false ∧ call.isAround = false) (driver : e.isDriver = true)
    (cause : e.cause = some (.client m)) (sound : c.Sound s) :
    ∃ news, u.client.raised = s.client.raised ++ news ∧ Settled c s news (.error (.refused e)) := by
  refine ⟨_, raised, .aside (fun x among => ?_) (iff_of_true (.caused (.head _) driver cause) sound)⟩
  rw [List.mem_singleton.1 among]
  exact aside

theorem settled_connect (own : l.RaisesOwn) (cs : String) (s : ClientState (Watched τ) ρ) :
    ∃ news, (l.watched.openRaw cs s).2.client.raised = s.client.raised ++ news ∧
      Settled (.connect cs) s news (ended (l.watched.openRaw cs s)).1 := by
  unfold openRaw
  obtain ⟨conn, u, made, same⟩ | ⟨m, u, made, raised⟩ :=
    doing_cases (y := l.watched.connect cs s.client) rfl (own.connect cs s.client.client)
  · rw [made]
    exact settled_silent same (iff_of_true .answered trivial)
  · rw [made]
    exact settled_raised raised ⟨rfl, rfl⟩ rfl rfl trivial

/-- A pool that has to make a connection reports what making it raised. -/
theorem settled_acquire (own : l.RaisesOwn) (n : Nat) (s : ClientState (Watched τ) ρ) :
    ∃ news, (l.watched.acquire n s).2.client.raised = s.client.raised ++ news ∧
      Settled (.acquire n) s news (ended (l.watched.acquire n s)).1 := by
  unfold acquire
  cases found : s.pools[n]? with
  | none =>
    refine settled_silent rfl (iff_of_false not_reports_broken ?_)
    rintro ⟨p, found', _⟩
    rw [found] at found'
    cases found'
  | some p =>
    have sound_iff : (DriverCall.acquire n).Sound s ↔ p.take ≠ .endless ∧ p.take ≠ .noTime := by
      refine ⟨fun ⟨p', found', able⟩ => ?_, fun able => ⟨p, found, able⟩⟩
      rw [found] at found'
      cases found'
      exact able
    have connecting :=
      doing_cases (y := l.watched.connect p.connectionString s.client) rfl (own.connect _ s.client.client)
    dsimp only
    cases taken : p.take with
    | exhausted =>
      have sound := sound_iff.2 (by rw [taken]; exact ⟨nofun, nofun⟩)
      exact settled_silent rfl (iff_of_true (.exhausted rfl found rfl rfl) sound)
    | endless => exact settled_silent rfl (iff_of_false not_reports_broken fun sound => (sound_iff.1 sound).1 taken)
    | noTime => exact settled_silent rfl (iff_of_false not_reports_broken fun sound => (sound_iff.1 sound).2 taken)
    | waiting record rest =>
      have sound := sound_iff.2 (by rw [taken]; exact ⟨nofun, nofun⟩)
      cases record with
      | some conn => exact settled_silent rfl (iff_of_true .answered sound)
      | none =>
        obtain ⟨conn, u, made, same⟩ | ⟨m, u, made, raised⟩ := connecting
        · dsimp only
          rw [made]
          exact settled_silent same (iff_of_true .answered sound)
        · dsimp only
          rw [made]
          exact settled_raised raised ⟨rfl, rfl⟩ rfl rfl sound
    | new rest =>
      have sound := sound_iff.2 (by rw [taken]; exact ⟨nofun, nofun⟩)
      obtain ⟨conn, u, made, same⟩ | ⟨m, u, made, raised⟩ := connecting
      · dsimp only
        rw [made]
        exact settled_silent same (iff_of_true .answered sound)
      · dsimp only
        rw [made]
        exact settled_raised raised ⟨rfl, rfl⟩ rfl rfl sound

theorem settled_queryOn (own : l.RaisesOwn) (conn : Handle ρ) (sql : String) (params : Option (List Value))
    {given : Value} (passed : ∀ c, ∃ vs, valuesOf c given = .ok vs) (s : ClientState (Watched τ) ρ) :
    ∃ news, (l.watched.queryOn conn sql given s).2.client.raised = s.client.raised ++ news ∧
      Settled (.query conn sql params) s news (ended (l.watched.queryOn conn sql given s)).1 := by
  unfold queryOn
  cases conn with
  | raw raw caught =>
    obtain ⟨vs, values⟩ := passed caught
    obtain ⟨r, u, news, ran, raised, ends⟩ := ends_query own raw sql values s.client
    dsimp only
    rw [ran]
    exact ⟨news, raised, .of_ends trivial ends⟩
  | leased n =>
    cases held : (s.leases[n]?).bind Lease.conn with
    | some raw =>
      obtain ⟨vs, values⟩ := passed .ofClient
      obtain ⟨r, u, news, ran, raised, ends⟩ := ends_query own raw sql values s.client
      dsimp only
      rw [held]
      dsimp only
      rw [ran]
      exact ⟨news, raised, .of_ends (by rw [Sound, held]; rfl) ends⟩
    | none =>
      dsimp only
      rw [held]
      refine settled_silent rfl (iff_of_false not_reports_broken ?_)
      rw [Sound, held]
      nofun

/-- A connection that is given back raises nothing; another one raises what closing it raised. -/
theorem settled_close (own : l.RaisesOwn) (conn : Handle ρ) (s : ClientState (Watched τ) ρ) :
    ∃ news, (l.watched.closeHandle conn s).2.client.raised = s.client.raised ++ news ∧
      Settled (.close conn) s news (ended (l.watched.closeHandle conn s)).1 := by
  unfold closeHandle
  cases conn with
  | raw raw caught =>
    dsimp only
    unfold closeRaw
    obtain ⟨_, u, closed, same⟩ | ⟨m, u, closed, raised⟩ :=
      doing_cases (y := l.watched.close raw s.client) rfl (own.close raw s.client.client)
    · rw [closed]
      exact settled_silent same (iff_of_true .answered trivial)
    · rw [closed]
      dsimp only [guarded]
      rw [failureOf_client]
      exact settled_raised raised ⟨rfl, rfl⟩ rfl rfl trivial
  | leased n =>
    dsimp only
    split
    · next pool raw _ =>
      obtain ⟨news, raised, aside⟩ :=
        extends_giveBack l pool raw { s with leases := s.leases.set n ⟨pool, none⟩ }
      exact ⟨news, raised, .aside aside (iff_of_true .answered trivial)⟩
    · exact settled_silent rfl (iff_of_true .answered trivial)

/-- **The driver reports what the library raises** exactly unless it was raised around a statement: of the calls that
may be made at all, just those answer or fail with an error of the engine, caused by one that the library raised
meanwhile or, for a pool, by having nothing to lease, during which neither making nor closing a cursor has raised
anything. Then the error that running a statement or fetching its rows raised is the cause of what the call reports. -/
theorem driver_reports_iff (own : l.RaisesOwn) (setup : PoolSetup) (c : DriverCall ρ) {s s' : ClientState (Watched τ) ρ}
    {r : Except Failure Unit} (run : c.run (l.watched.driver true setup) s = (r, s')) :
    ∃ news, s'.client.raised = s.client.raised ++ news ∧
      (Reports c s news r ↔ c.Sound s ∧ ∀ x ∈ news, x.call.isAround = false) ∧
      ((∀ x ∈ news, x.call.isAround = false) → ∀ x ∈ news, x.call.runs = true →
        ∃ e m, r = .error (.refused e) ∧ e.isDriver = true ∧ x.fault = .client m ∧ e.cause = some (.client m)) := by
  have settled : ∃ news, (c.run (l.watched.driver true setup) s).2.client.raised = s.client.raised ++ news ∧
      Settled c s news (c.run (l.watched.driver true setup) s).1 := by
    cases c with
    | connect cs => exact settled_connect own cs s
    | acquire n => exact settled_acquire own n s
    | query conn sql params => exact settled_queryOn own conn sql params (fun c => exists_valuesOf c params) s
    | close conn => exact settled_close own conn s
  rw [run] at settled
  obtain ⟨news, raised, settled⟩ := settled
  exact ⟨news, raised, settled.reports, settled.carries⟩

/-- What a call comes to where some calls raise an error. -/
def raising (faults : ClientCall → Option String) (call : ClientCall) (a : α) : Except Fault α :=
  match faults call with
  | none => .ok a
  | some m => .error (.client m)

theorem exists_of_raising {faults : ClientCall → Option String} {call : ClientCall} {a : α} {f : Fault}
    (raised : raising faults call a = .error f) : ∃ m, f = .client m := by
  unfold raising at raised
  split at raised
  · cases raised
  · next m _ =>
    cases raised
    exact ⟨m, rfl⟩

/-- A library whose calls raise the same at any time. -/
def faulty (faults : ClientCall → Option String) : Client Unit Unit Unit where
  connect _ t := (raising faults .connect (), t)
  cursor _ t := (raising faults .cursor (), t)
  execute _ _ _ t := (raising faults .execute (some ["ID"]), t)
  fetch _ t := (raising faults .fetch [[.int 1]], t)
  closeCursor _ t := (raising faults .closeCursor (), t)
  rollback _ t := (raising faults .rollback (), t)
  close _ t := (raising faults .close (), t)

theorem raisesOwn_faulty (faults : ClientCall → Option String) : (faulty faults).RaisesOwn :=
  ⟨fun _ _ _ => exists_of_raising, fun _ _ _ => exists_of_raising, fun _ _ _ _ _ => exists_of_raising,
    fun _ _ _ => exists_of_raising, fun _ _ _ => exists_of_raising, fun _ _ _ => exists_of_raising⟩

/-- A statement that fails: the driver reports why. -/
theorem driver_reports_failed :
    let l := faulty fun call => if call = .execute then some "boom SQLSTATE=42704" else none
    ∃ e, ((l.watched.driver true {}).query (.raw () .ofClient) "SELECT 1" none { client := { client := () } }).1 =
        .error (.refused e) ∧
      e.isDriver = true ∧ e.cause = some (.client "boom SQLSTATE=42704") := by
  intro l
  have own : l.RaisesOwn := raisesOwn_faulty _
  obtain ⟨news, raised, _, carries⟩ := driver_reports_iff own {} (.query (.raw () .ofClient) "SELECT 1" none)
    (s := { client := { client := () } }) rfl
  have once : news = [⟨.execute, .client "boom SQLSTATE=42704"⟩] := raised.symm
  rw [once] at carries
  obtain ⟨e, m, failed, driver, text, cause⟩ := carries (by decide) _ (.head _) rfl
  cases text
  refine ⟨e, ?_, driver, cause⟩
  cases failed
  rfl

/-- Closing the cursor fails as well: what is reported is neither an error of the engine nor why the statement
failed. -/
theorem driver_escaped :
    let l := faulty fun call => match call with
      | .execute => some "boom SQLSTATE=42704"
      | .closeCursor => some "closing"
      | _ => none
    ((l.driver true {}).query (.raw () .ofClient) "SELECT 1" none { client := () }).1 =
      .error (.broken (.client "closing")) := rfl

end Client

end TableGateway
