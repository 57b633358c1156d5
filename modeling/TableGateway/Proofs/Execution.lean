import TableGateway.Proofs.Journals

/-!
# How a statement is answered

A statement runs on a connection that the entry comes by, and a connection out of a pool is given back afterwards. What
the dispatcher answers is the verdict on how the statement ended, unless giving the connection back fails: that failure
is answered for in the statement's place. All this rests on a journal that takes what is written meanwhile
(`Dispatcher.Notes`), and nothing else is asked of it.

- **`fst_execute`**: the answer, from how the statement ended and how the connection was given back.
- **`plain_of_notes`**: a record can hold these notes when it can hold what the engine reports.
- **`execute_eq_verdict_iff`**: when exactly the statement's own ending decides.
-/

namespace TableGateway

variable {σ κ π α : Type}

namespace Entry

/-- How an entry comes by a connection: out of its pool, or its own, which is opened when it is not. -/
def connection (d : Driver σ κ π) (e : Entry κ π) (s : σ) : Except Failure κ × σ :=
  match e.pool with
  | some p => d.acquire p s
  | none =>
    match e.conn with
    | some c => (.ok c, s)
    | none => d.connect e.connectionString s

/-- How a connection is given back: an entry without a pool keeps it. -/
def giveBack (d : Driver σ κ π) (e : Entry κ π) (c : κ) (s : σ) : Except Failure Unit × σ :=
  match e.pool with
  | some _ => d.close c s
  | none => (.ok (), s)

end Entry

/-- The second world has this engine, and the same driver, journal and bindings as the first. -/
structure World.At (w : World σ κ π) (s : σ) (v : World σ κ π) : Prop where
  engine : v.engine = s
  driver : v.registry.driver = w.registry.driver
  writes : v.writes = w.writes
  bound : v.bound = w.bound

namespace World.At

variable {w v u : World σ κ π} {s : σ}

theorem takes (h : w.At s v) {notes : Note → Prop} (taken : w.Takes notes) : v.Takes notes :=
  taken.congr h.writes h.bound

theorem trans {s' : σ} (h : w.At s v) (g : v.At s' u) : w.At s' u :=
  ⟨g.engine, g.driver.trans h.driver, g.writes.trans h.writes, g.bound.trans h.bound⟩

/-- A run that neither calls the driver nor changes the registry, and leaves what is bound as it was. -/
theorem quiet (h : w.At s v) {x : Run σ κ π α} (q : Run.Quiet x) (leaves : Run.LeavesBound x) {r : Except Failure α}
    (run : x.run v = (r, u)) : w.At s u := by
  have same := q v
  have bound := leaves v
  rw [run] at same bound
  exact ⟨same.engine.trans h.engine, by rw [same.registry]; exact h.driver, same.writes.trans h.writes,
    bound.trans h.bound⟩

theorem refl (w : World σ κ π) : w.At w.engine w := ⟨rfl, rfl, rfl, rfl⟩

end World.At

/-- The world while a call on a schema of a connection is served. -/
def World.serving (w : World σ κ π) (identity schemaName : Value) : World σ κ π :=
  { w with bound := w.bound.enter [("identity", identity), ("schema", schemaName)] }

theorem World.plain_serving {w : World σ κ π} (bound : w.bound.Plain) {identity schemaName : Value}
    (identified : LogSetup.Holds identity) (named : LogSetup.Holds schemaName) :
    (w.serving identity schemaName).bound.Plain :=
  bound.scope identified named

namespace Dispatcher

/-- What the ending of a statement comes to: a warning is an empty answer, all else of the engine an error. -/
def verdict (dp : Dispatcher) (identity schemaName : Value) (st : Statement) :
    Except Failure Rows → Except Failure (Outcome Error Rows)
  | .ok rows => .ok (.ok rows)
  | .error (.broken f) => .error (.broken f)
  | .error (.refused e) =>
    if e.isDriver then
      match e.isWarning dp.warningLead with
      | .ok true => .ok (.ok [])
      | .ok false => .ok (.error ((e.within identity schemaName).executing st.sql))
      | .error f => .error (.broken f)
    else .ok (.error (e.within identity schemaName))

variable {dp : Dispatcher} {identity schemaName : Value} {st : Statement} {e : Entry κ π} {w : World σ κ π}

/-! ### The notes on a statement -/

/-- The notes on opening the connection that an entry keeps. -/
inductive Opens (d : Driver σ κ π) (e : Entry κ π) : Note → Prop
  | told {n : Note} (unpooled : e.pool = none) (closed : e.conn = none) (tells : n ∈ d.opened) : Opens d e n
  | opened (unpooled : e.pool = none) (closed : e.conn = none) : Opens d e openedNote

/-- The notes on how a statement ended: what the engine reports, and that it is taken for a warning. -/
inductive Ends (dp : Dispatcher) (r : Except Failure Rows) : Note → Prop
  | reported {e : Error} (ended : r = .error (.refused e)) (driver : e.isDriver = true) : Ends dp r (engineErrorNote e)
  | downgraded {e : Error} (ended : r = .error (.refused e)) (driver : e.isDriver = true)
    (warns : e.isWarning dp.warningLead = .ok true) : Ends dp r (downgradedNote e)

/-- All notes that are written while an entry runs a statement, when the run with its connection ends so. -/
inductive Notes (dp : Dispatcher) (d : Driver σ κ π) (e : Entry κ π) (st : Statement) (r : Except Failure Rows) :
    Note → Prop
  | opens {n : Note} (h : Opens d e n) : Notes dp d e st r n
  | announces {n : Note} (h : dp.Announces st n) : Notes dp d e st r n
  | ends {n : Note} (h : dp.Ends r n) : Notes dp d e st r n

/-- A record can hold what is announced. -/
theorem plain_of_announces {n : Note} (among : dp.Announces st n) : n.Plain := by
  cases among with
  | executed => exact .cons (by decide) (LogSetup.holds_text _) (.one (by decide) (LogSetup.holds_int _))
  | listenerFailed => exact .one (by decide) (LogSetup.holds_bool true)

/-- A record can hold all notes when it can hold what the driver tells and what the engine reports. -/
theorem plain_of_notes {d : Driver σ κ π} {r : Except Failure Rows} (told : ∀ n ∈ d.opened, n.Plain)
    (reported : ∀ e, r = .error (.refused e) → LogSetup.Holds e.state ∧ LogSetup.Holds e.message) {n : Note}
    (among : dp.Notes d e st r n) : n.Plain := by
  have two {source : Source} {level : Level} {event : String} {e : Error} (ended : r = .error (.refused e)) :
      Note.Plain ⟨source, level, event, [("state", e.state), ("message", e.message)]⟩ := by
    obtain ⟨state, message⟩ := reported e ended
    exact .cons (by decide) state (.one (by decide) message)
  cases among with
  | opens h =>
    cases h with
    | told _ _ tells => exact told n tells
    | opened => exact .one (by decide) (LogSetup.holds_bool false)
  | announces h => exact plain_of_announces h
  | ends h =>
    cases h with
    | reported ended _ => exact two ended
    | downgraded ended _ _ => exact two ended

/-! ### Answers -/

theorem fst_classify {e : Error} (takes : e.isWarning dp.warningLead = .ok true →
    w.writes ⟨downgradedNote e, w.bound⟩ = .ok ()) :
    ((dp.classify e).run w).1 = match e.isWarning dp.warningLead with
      | .ok true => .ok (.ok [])
      | .ok false => .ok (.error e)
      | .error f => .error (.broken f) := by
  cases sorted : e.isWarning dp.warningLead with
  | error f => rw [classify, Run.run_bind, Run.run_lift, sorted]; rfl
  | ok warns =>
    cases warns with
    | true => rw [classify_warning sorted (takes sorted)]
    | false => rw [classify_error sorted]

theorem fst_answer {r : Except Failure Rows} (takes : w.Takes (dp.Ends r)) :
    ((dp.answer identity schemaName st r).run w).1 = dp.verdict identity schemaName st r := by
  cases r with
  | ok rows => rfl
  | error f =>
    cases f with
    | broken f => rfl
    | refused e =>
      rw [answer, verdict]
      by_cases driver : e.isDriver = true
      · have reported :
            w.writes ⟨engineErrorNote ((e.within identity schemaName).executing st.sql), w.bound⟩ = .ok () :=
          takes (engineErrorNote e) (.reported rfl driver)
        rw [if_pos driver, if_pos driver, Run.run_bind_ok (Run.run_log reported)]
        exact fst_classify fun warns => takes (downgradedNote e) (.downgraded rfl driver warns)
      · rw [if_neg driver, if_neg driver]
        rfl

/-- A statement for a registered identity is answered by how the run with its connection ends. -/
theorem run_execute (found : w.registry.resolve identity = .ok e) {r : Except Failure Rows} {v : World σ κ π}
    (ended : (withConnection identity e (dp.runOn st)).run (w.serving identity schemaName) = (r, v)) :
    (dp.execute identity st schemaName).run w =
      (((dp.answer identity schemaName st r).run v).1, { ((dp.answer identity schemaName st r).run v).2 with
        bound := ((dp.answer identity schemaName st r).run v).2.bound.leave
          [("identity", identity), ("schema", schemaName)] }) := by
  refine Run.run_binding ?_
  have resolved : (Run.settle (Registry.resolved identity)).run (w.serving identity schemaName) =
      (.ok (.ok e), w.serving identity schemaName) := by
    refine Run.run_settle_ok ?_
    rw [Registry.run_resolved, World.serving, found]
  have tried : (Run.attempt (withConnection identity e (dp.runOn st))).run (w.serving identity schemaName) =
      (.ok r, v) := by
    rw [Run.run_attempt, ended]
  exact (Run.run_bind_ok resolved).trans (Run.run_bind_ok tried)

/-- Only for a registered identity a statement is answered well. -/
theorem resolve_of_execute_ok {rows : Rows} {v : World σ κ π}
    (h : (dp.execute identity st schemaName).run w = (.ok (.ok rows), v)) :
    ∃ e, w.registry.resolve identity = .ok e := by
  cases found : w.registry.resolve identity with
  | ok e => exact ⟨e, rfl⟩
  | error f =>
    have unresolved : (Registry.resolved identity).run (w.serving identity schemaName) =
        (.error f, w.serving identity schemaName) := by
      rw [Registry.run_resolved, World.serving, found]
    cases f with
    | refused e =>
      rw [execute, Run.run_binding (Run.run_bind_ok (Run.run_settle_refused unresolved))] at h
      cases h
    | broken f =>
      rw [execute, Run.run_binding (Run.run_bind_error (Run.run_settle_broken unresolved))] at h
      cases h

section Running

variable {c : κ} {s₁ s₂ s₃ : σ} {r : Except Failure Rows} {back : Except Failure Unit}

/-- A statement ends as the driver ends it. -/
theorem run_runOn (takes : w.Takes (dp.Announces st))
    (ran : w.registry.driver.query c st.sql (valuesOf st) w.engine = (r, s₁)) :
    ∃ v, (dp.runOn st c).run w = (r, v) ∧ w.At s₁ v := by
  obtain ⟨v, announced, same⟩ := run_announce_ok dp st takes
  have told : w.At w.engine v := (World.At.refl w).quiet (quiet_announce dp st) (leavesBound_announce dp st) announced
  rw [← same.registry, ← same.engine] at ran
  have called := Run.run_call (f := fun d => d.query c st.sql (valuesOf st)) ran
  exact ⟨_, (Run.run_bind_ok announced).trans called, rfl, told.driver, told.writes, told.bound⟩

/-- A new connection is opened as the driver opens it, and kept. -/
theorem run_openKept_ok (unpooled : e.pool = none) (closed : e.conn = none)
    (takes : w.Takes (Opens w.registry.driver e))
    (opened : w.registry.driver.connect e.connectionString w.engine = (.ok c, s₁)) :
    ∃ v, (openKept identity e).run w = (.ok c, v) ∧ w.At s₁ v := by
  have called := Run.run_call (f := fun d => d.connect e.connectionString) opened
  have at₁ : w.At s₁ { w with engine := s₁ } := ⟨rfl, rfl, rfl, rfl⟩
  obtain ⟨v, logged, _⟩ : ∃ v, (Run.logAll w.registry.driver.opened).run { w with engine := s₁ } = (.ok (), v) ∧
      World.Alike _ v := Run.run_logAll_ok fun n tells => at₁.takes takes n (.told unpooled closed tells)
  have at₂ : w.At s₁ v := at₁.quiet (Run.quiet_logAll _) (Run.leavesBound_logAll _) logged
  let kept := { v with registry := v.registry.update identity { e with conn := some c } }
  have at₃ : w.At s₁ kept := ⟨at₂.engine, at₂.driver, at₂.writes, at₂.bound⟩
  have told := Run.run_log (at₃.takes takes _ (.opened unpooled closed))
  refine ⟨_, ?_, at₃.quiet (Run.quiet_log _) (Run.leavesBound_log _) told⟩
  unfold openKept
  rw [Run.run_bind_ok called, Run.run_bind_ok (Run.run_registry _), Run.run_bind_ok logged,
    Run.run_bind_ok (Run.run_changeRegistry _ v)]
  exact Run.run_bind_ok told

/-- A run with a connection ends as the statement does, unless giving the connection back fails. -/
theorem run_withConnection (opens : w.Takes (Opens w.registry.driver e)) (announces : w.Takes (dp.Announces st))
    (connected : e.connection w.registry.driver w.engine = (.ok c, s₁))
    (ran : w.registry.driver.query c st.sql (valuesOf st) s₁ = (r, s₂))
    (gaveBack : e.giveBack w.registry.driver c s₂ = (back, s₃)) :
    ∃ v, (withConnection identity e (dp.runOn st)).run w = (back.bind fun _ => r, v) ∧ w.At s₃ v := by
  unfold Entry.connection at connected
  unfold Entry.giveBack at gaveBack
  unfold withConnection
  cases pool : e.pool with
  | some p =>
    -- The connection is closed in the state in which the statement left the driver.
    rw [pool] at connected gaveBack
    have acquired := Run.run_call (f := fun d => d.acquire p) connected
    have at₁ : w.At s₁ { w with engine := s₁ } := ⟨rfl, rfl, rfl, rfl⟩
    obtain ⟨v, ended, at₂⟩ : ∃ v, (dp.runOn st c).run { w with engine := s₁ } = (r, v) ∧ World.At _ s₂ v :=
      run_runOn (at₁.takes announces) ran
    have at₂ := at₁.trans at₂
    have closed : v.registry.driver.close c v.engine = (back, s₃) := by
      rw [at₂.driver, at₂.engine]
      exact gaveBack
    have called := Run.run_call (f := fun d => d.close c) closed
    refine ⟨{ v with engine := s₃ }, ?_, rfl, at₂.driver, at₂.writes, at₂.bound⟩
    dsimp only
    rw [Run.run_bind_ok acquired, Run.ensure]
    dsimp only
    rw [ended, called]
    cases back <;> rfl
  | none =>
    rw [pool] at connected gaveBack
    cases gaveBack
    cases conn : e.conn with
    | some c' =>
      rw [conn] at connected
      cases connected
      exact run_runOn announces ran
    | none =>
      rw [conn] at connected
      obtain ⟨v, opened, at₁⟩ : ∃ v, (openKept identity e).run w = (.ok c, v) ∧ w.At s₁ v :=
        run_openKept_ok pool conn opens connected
      rw [← at₁.driver, ← at₁.engine] at ran
      obtain ⟨u, ended, at₂⟩ := run_runOn (at₁.takes announces) ran
      exact ⟨u, (Run.run_bind_ok opened).trans ended, at₁.trans at₂⟩

/-- The answer to a statement is the verdict on how it ended, or on how giving the connection back failed. -/
theorem fst_execute (found : w.registry.resolve identity = .ok e)
    (connected : e.connection w.registry.driver w.engine = (.ok c, s₁))
    (ran : w.registry.driver.query c st.sql (valuesOf st) s₁ = (r, s₂))
    (gaveBack : e.giveBack w.registry.driver c s₂ = (back, s₃))
    (takes : (w.serving identity schemaName).Takes (dp.Notes w.registry.driver e st (back.bind fun _ => r))) :
    ((dp.execute identity st schemaName).run w).1 = dp.verdict identity schemaName st (back.bind fun _ => r) := by
  obtain ⟨v, ended, at₃⟩ : ∃ v, (withConnection identity e (dp.runOn st)).run (w.serving identity schemaName) =
      (back.bind fun _ => r, v) ∧ (w.serving identity schemaName).At s₃ v :=
    run_withConnection (takes.mono fun _ => .opens) (takes.mono fun _ => .announces) connected ran gaveBack
  rw [run_execute found ended]
  exact fst_answer (at₃.takes (takes.mono fun _ => .ends))

/-- **The statement decides**, whatever becomes of its connection, exactly when the connection is given back without
fail, or its failing would be answered like the statement's own ending. The journal has to take the notes that are
written meanwhile. -/
theorem execute_eq_verdict_iff (found : w.registry.resolve identity = .ok e)
    (connected : e.connection w.registry.driver w.engine = (.ok c, s₁))
    (ran : w.registry.driver.query c st.sql (valuesOf st) s₁ = (r, s₂))
    (gaveBack : e.giveBack w.registry.driver c s₂ = (back, s₃))
    (takes : (w.serving identity schemaName).Takes (dp.Notes w.registry.driver e st (back.bind fun _ => r))) :
    ((dp.execute identity st schemaName).run w).1 = dp.verdict identity schemaName st r ↔
      ∀ f, back = .error f → dp.verdict identity schemaName st (.error f) = dp.verdict identity schemaName st r := by
  rw [fst_execute found connected ran gaveBack takes]
  cases back with
  | ok u =>
    constructor
    · intro _ f failed
      cases failed
    · intro _
      rfl
  | error f =>
    constructor
    · intro same f' failed
      cases failed
      exact same
    · intro same
      exact same f rfl

end Running

/-! ### A connection that cannot be given back -/

/-- A pool under the identity `a`, behind this driver. The journal is written as records. -/
def pooled (d : Driver Unit Unit Unit) : World Unit Unit Unit where
  engine := ()
  registry := { driver := d, entries := ⟨[(.text "a", { config := { identity := .text "a" }, pool := some () })]⟩ }
  writes := LogSetup.recording.takes ""

/-- The notes on a statement that has its rows are written. -/
theorem takes_pooled {d : Driver Unit Unit Unit} (silent : d.opened = []) (e : Entry Unit Unit) (st : Statement)
    (rows : Rows) : ((pooled d).serving (.text "a") .null).Takes (Notes {} d e st (.ok rows)) := by
  have bound := World.plain_serving (w := pooled d) Bindings.plain_nil (LogSetup.holds_text "a") LogSetup.holds_null
  refine World.takes_of_plain LogSetup.holds_recording rfl bound fun n among => plain_of_notes ?_ ?_ among
  · intro n told
    rw [silent] at told
    cases told
  · intro e failed
    cases failed

/-- When the connection is given back, the rows are the answer. -/
theorem execute_released :
    ((execute {} (.text "a") ⟨"SELECT 1", []⟩ .null).run (pooled (.steady (.ok ()) (.ok [.int 1]) (.ok ())))).1 =
      .ok (.ok [.int 1]) := by
  let e : Entry Unit Unit := { config := { identity := .text "a" }, pool := some () }
  have released {d : Driver Unit Unit Unit} {st : Statement} (silent : d.opened = [])
      (acquired : d.acquire () () = (.ok (), ())) (ran : d.query () st.sql (valuesOf st) () = (.ok [.int 1], ()))
      (closed : d.close () () = (.ok (), ())) :
      ((execute {} (.text "a") st .null).run (pooled d)).1 = .ok (.ok [.int 1]) := by
    have found : (pooled d).registry.resolve (.text "a") = .ok e := rfl
    have takes := takes_pooled silent e st [.int 1]
    have decided := execute_eq_verdict_iff found acquired ran closed takes
    exact decided.2 fun f failed => by cases failed
  exact released rfl rfl rfl rfl

/-- The statement has its rows, but the answer is the error of giving the connection back. -/
theorem execute_unreleased :
    let broken := Error.engine "boom" "58004"
    let d := Driver.steady (.ok ()) (.ok [.int 1]) (.error (.refused broken))
    (d.query () "SELECT 1" none ()).1 = .ok [.int 1] ∧
      ((execute {} (.text "a") ⟨"SELECT 1", []⟩ .null).run (pooled d)).1 =
        .ok (.error ((broken.within (.text "a") .null).executing "SELECT 1")) :=
  ⟨rfl, rfl⟩

end Dispatcher

end TableGateway
