import TableGateway.Proofs.Sent
import TableGateway.Proofs.Services

/-!
# Requests at fault touch nothing

A driver that reports nothing but errors of the engine, or that the client library is missing, never causes an answer
that blames the request: such an error was raised before a connection was asked for. So the driver was not called for
the operation, the listener has heard nothing, and the registry is as it was.

- **`raises_withConnection`**: running a statement with a connection raises what the driver reports, and nothing else;
- **`exists_bound_of_callers`**: an error that blames the request leaves the world as it was;
- **`untouched`**: the same, by the driver's own record.
-/

namespace TableGateway

variable {σ κ π α β : Type}

/-! ## Kinds of errors -/

namespace Error

/-- Is the error of the kind of this name, or of a narrower one? -/
def isA (e : Error) (name : String) : Bool := e.name == name || e.kind.wider.contains name

/-- The error blames the request or the configuration. -/
def isCallers (e : Error) : Bool :=
  e.isA "ValidationError" || e.isA "UnknownLogicalTypeError" || (e.isA "ConfigError" && !e.isA "DriverUnavailableError")

/-- The error is of the engine, or the client library is missing. -/
def isEngines (e : Error) : Bool := e.isA "DriverError" || e.isA "DriverUnavailableError"

theorem isA_congr {e e' : Error} (same : e.kind = e'.kind) (name : String) : e.isA name = e'.isA name := by
  unfold isA Error.name
  rw [same]

theorem isEngines_congr {e e' : Error} (same : e.kind = e'.kind) : e.isEngines = e'.isEngines := by
  unfold isEngines
  rw [isA_congr same, isA_congr same]

/-- No error is both. -/
theorem not_isEngines_of_isCallers {e : Error} (blames : e.isCallers = true) : e.isEngines = false := by
  unfold isCallers at blames
  unfold isEngines
  unfold isA Error.name at *
  revert blames
  cases e.kind with
  | driver state => exact fun blames => by cases blames
  | driverUnavailable => exact fun blames => by cases blames
  | _ => exact fun _ => rfl

end Error

/-- Every error that the driver reports is such. -/
structure Driver.Reports (d : Driver σ κ π) (P : Error → Prop) : Prop where
  connect : ∀ cs s e, (d.connect cs s).1 = .error (.refused e) → P e
  createPool : ∀ cs s e, (d.createPool cs s).1 = .error (.refused e) → P e
  acquire : ∀ p s e, (d.acquire p s).1 = .error (.refused e) → P e
  query : ∀ c sql params s e, (d.query c sql params s).1 = .error (.refused e) → P e
  close : ∀ c s e, (d.close c s).1 = .error (.refused e) → P e
  dispose : ∀ p s e, (d.dispose p s).1 = .error (.refused e) → P e

/-- A record changes nothing of what a driver reports. -/
theorem Driver.Reports.recorded {d : Driver σ κ π} {P : Error → Prop} (h : d.Reports P) : d.recorded.Reports P := by
  have made {γ : Type} {r : Except Failure γ} {n : Nat} {e : Error}
      (failed : r.map (Numbered.mk n) = .error (.refused e)) : r = .error (.refused e) := by
    cases r with
    | ok a => cases failed
    | error f => cases failed; rfl
  exact ⟨fun cs s e failed => h.connect cs s.engine e (made failed),
    fun cs s e failed => h.createPool cs s.engine e (made failed),
    fun p s e failed => h.acquire p.item s.engine e (made failed),
    fun c sql params s e failed => h.query c.item sql params s.engine e failed,
    fun c s e failed => h.close c.item s.engine e failed, fun p s e failed => h.dispose p.item s.engine e failed⟩

theorem Driver.reports_steady {opening : Except Failure Unit} {answer : Except Failure (List Value)}
    {closing : Except Failure Unit} {P : Error → Prop} (opens : ∀ e, opening = .error (.refused e) → P e)
    (answers : ∀ e, answer = .error (.refused e) → P e) (closes : ∀ e, closing = .error (.refused e) → P e) :
    (steady opening answer closing).Reports P where
  connect _ _ := opens
  createPool _ _ _ failed := by cases failed
  acquire _ _ := opens
  query _ _ _ _ := answers
  close _ _ := closes
  dispose _ _ _ failed := by cases failed

/-! ## What runs raise -/

namespace Run

variable {d : Driver σ κ π} {P : Error → Prop}

/-- Working with the driver `d`, the run keeps to it and raises such errors alone. -/
def Raises (d : Driver σ κ π) (P : Error → Prop) (x : Run σ κ π α) : Prop :=
  ∀ w, w.registry.driver = d → (x.run w).2.registry.driver = d ∧ ∀ e, (x.run w).1 = .error (.refused e) → P e

theorem raises_of_answers {x : Run σ κ π α} (answers : Answers x) (quiet : Quiet x) : Raises d P x :=
  fun w driver => ⟨by rw [(quiet w).registry]; exact driver, fun e raised => absurd raised (answers w e)⟩

theorem raises_call {f : Driver σ κ π → σ → Except Failure α × σ}
    (reports : ∀ s e, (f d s).1 = .error (.refused e) → P e) : Raises d P (call f) := by
  intro w driver
  refine ⟨driver, fun e raised => reports w.engine e ?_⟩
  rw [← driver]
  exact raised

theorem raises_changeRegistry {f : Registry σ κ π → Registry σ κ π} (keeps : ∀ r, (f r).driver = r.driver) :
    Raises d P (changeRegistry f) :=
  fun w driver => ⟨(keeps w.registry).trans driver, fun _ raised => by cases raised⟩

theorem raises_bind {x : Run σ κ π α} {f : α → Run σ κ π β} (hx : Raises d P x) (hf : ∀ a, Raises d P (f a)) :
    Raises d P (x >>= f) := by
  intro w driver
  obtain ⟨keeps, raises⟩ := hx w driver
  rcases ended : x.run w with ⟨r, v⟩
  rw [ended] at keeps raises
  cases r with
  | ok a =>
    rw [run_bind_ok ended]
    exact hf a v keeps
  | error f =>
    rw [run_bind_error ended]
    refine ⟨keeps, fun e raised => ?_⟩
    cases raised
    exact raises e rfl

theorem raises_ensure {x : Run σ κ π α} {after : Run σ κ π Unit} (hx : Raises d P x) (hafter : Raises d P after) :
    Raises d P (ensure x after) := by
  intro w driver
  obtain ⟨keeps, raises⟩ := hx w driver
  obtain ⟨keepsAfter, raisesAfter⟩ := hafter (x.run w).2 keeps
  refine ⟨by rw [snd_ensure]; exact keepsAfter, fun e raised => ?_⟩
  rcases ended : after.run (x.run w).2 with ⟨r, v⟩
  rw [ended] at raisesAfter
  cases r with
  | ok _ =>
    rw [run_ensure_ok ended] at raised
    exact raises e raised
  | error f =>
    unfold ensure at raised
    dsimp only at raised
    rw [ended] at raised
    cases raised
    exact raisesAfter e rfl

end Run

namespace Dispatcher

variable {d : Driver σ κ π} {P : Error → Prop}

theorem answers_announce (dp : Dispatcher) (st : Statement) : Run.Answers (dp.announce st : Run σ κ π _) := by
  refine Run.answers_bind (Run.answers_log _) fun _ => ?_
  cases dp.listener with
  | none => exact Run.answers_pure ()
  | some l =>
    have world : Run.Answers (Run.world : Run σ κ π _) := fun _ _ raised => by cases raised
    refine Run.answers_bind world fun w => Run.answers_bind (fun _ _ raised => by cases raised) fun _ => ?_
    split
    · exact Run.answers_log _
    · exact Run.answers_pure ()

/-- Running a statement with a connection raises what the driver reports, and nothing else. -/
theorem raises_withConnection (reports : d.Reports P) (dp : Dispatcher) (st : Statement) (identity : Value)
    (entry : Entry κ π) : Run.Raises d P (withConnection identity entry (dp.runOn st)) := by
  have runs (c : κ) : Run.Raises d P (dp.runOn st c) :=
    Run.raises_bind (Run.raises_of_answers (answers_announce dp st) (quiet_announce dp st)) fun _ =>
      Run.raises_call (reports.query c st.sql _)
  have opens : Run.Raises d P (openKept identity entry) := by
    refine Run.raises_bind (Run.raises_call (reports.connect _)) fun c => ?_
    refine Run.raises_bind (Run.raises_of_answers (fun _ _ raised => by cases raised) Run.quiet_registry) fun r => ?_
    refine Run.raises_bind (Run.raises_of_answers (Run.answers_logAll _) (Run.quiet_logAll _)) fun _ => ?_
    refine Run.raises_bind (Run.raises_changeRegistry fun _ => rfl) fun _ => ?_
    exact Run.raises_bind (Run.raises_of_answers (Run.answers_log _) (Run.quiet_log _)) fun _ =>
      Run.raises_of_answers (Run.answers_pure c) (Run.quiet_pure c)
  unfold withConnection
  split
  · next p _ =>
    exact Run.raises_bind (Run.raises_call (reports.acquire p)) fun c =>
      Run.raises_ensure (runs c) (Run.raises_call (reports.close c))
  · split
    · exact runs _
    · exact Run.raises_bind opens runs

end Dispatcher

namespace Gateway

variable {g : Gateway} {identity schemaName : Value} {o : Operation} {e : Error}

/-- An error that blames the request leaves the world as it was, but for what is bound. -/
theorem exists_bound_of_callers {w v : World σ κ π} (reports : w.registry.driver.Reports fun e => e.isEngines = true)
    (h : (g.perform identity schemaName o).run w = (.ok (.error e), v)) (blames : e.isCallers = true) :
    ∃ b, v = { w with bound := b } := by
  cases origin h with
  | refused _ _ still => exact ⟨w.bound, still⟩
  | @ran st u _ driver known answered =>
    rcases Dispatcher.exists_of_execute_error answered with ⟨unknown, b, ended⟩ | ⟨entry, raised, _, _, ended, rfl⟩
    · rcases known with ⟨_, entry, found⟩ | ⟨rfl, _⟩
      · cases found.symm.trans unknown
      · exact ⟨b, ended⟩
    · -- the error was raised with the connection, so it is one that the driver reports
      have inside : (u.serving identity schemaName).registry.driver = w.registry.driver := driver
      have raises := Dispatcher.raises_withConnection reports g.dispatcher st identity entry
      have reported : raised.isEngines = true := (raises _ inside).2 raised (by rw [ended])
      have blameless := Error.not_isEngines_of_isCallers blames
      rw [Error.isEngines_congr (Dispatcher.kind_answerFor raised)] at blameless
      cases reported.symm.trans blameless

/-- **Requests at fault touch nothing.** An operation that answers with an error that blames the request or the
configuration has not called the driver, has told the listener nothing, and has left the registry as it was. -/
theorem untouched {d : Driver σ κ π} {w v : RecordedWorld σ κ π} (driver : w.registry.driver = d.recorded)
    (reports : d.Reports fun e => e.isEngines = true)
    (h : (g.perform identity schemaName o).run w = (.ok (.error e), v)) (blames : e.isCallers = true) :
    v.record = w.record ∧ v.heard = w.heard ∧ v.registry = w.registry := by
  have recorded : w.registry.driver.Reports fun e => e.isEngines = true := by
    rw [driver]
    exact reports.recorded
  obtain ⟨b, rfl⟩ := exists_bound_of_callers recorded h blames
  exact ⟨rfl, rfl, rfl⟩

/-- Where no connection can be opened, a schema that is not registered is refused before that is found out. -/
theorem untouched_unregistered :
    let boom := Error.engine "boom" "58004"
    let w := kept (.steady (.error (.refused boom)) (.ok []) (.ok ()))
    let ended := (perform {} (.text "a") (.text "s") (.request (.count (.value .null)))).run w
    (∃ e, ended.1 = .ok (.error e) ∧ e.isCallers = true) ∧ RecordedWorld.record ended.2 = [] ∧
      ended.2.heard = [] ∧ ended.2.registry = w.registry := by
  intro boom w ended
  have reports : (Driver.steady (.error (.refused boom)) (.ok []) (.ok ())).Reports fun e => e.isEngines = true := by
    refine Driver.reports_steady (fun e failed => ?_) (fun e failed => ?_) fun e failed => ?_ <;> cases failed
    rfl
  have run : ended = (.ok (.error ((Error.of (.unknownSchema (.text "s") (.text "a"))).within (.text "a") (.text "s"))),
      ended.2) := rfl
  obtain ⟨record, heard, registry⟩ := untouched rfl reports run rfl
  exact ⟨⟨_, rfl, rfl⟩, record, heard, registry⟩

end Gateway

end TableGateway
