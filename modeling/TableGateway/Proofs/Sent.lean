import TableGateway.Proofs.Services

/-!
# What was sent

An operation that runs one statement and answers well has sent the statement once, as it was built, unless the driver
refused a connection with a warning: then nothing was sent at all, and the warning is taken for an empty answer. The
journal has to take what is announced before the statement is sent, since a pool that fails afterwards would hide that
it did not; whatever else it refuses leaves no good answer.

- **`sent_execute`**: what was sent when a dispatcher answers well;
- **`Sends`**: the same for what an operation builds, through the parts of the operation;
- **`ran_iff_obtained`**: for every operation, when exactly its statement was sent.
-/

namespace TableGateway

variable {σ κ π α β : Type} {d : Driver σ κ π}

/-- The statement that the driver was asked to run, with its values. -/
def Exchange.asked? : Exchange → Option (String × Option (List Value))
  | .query _ sql params _ => some (sql, params)
  | _ => none

/-- One statement was sent, this one, with its values in order if it has any. -/
def Ran (st : Statement) (xs : List Exchange) : Prop :=
  xs.filterMap Exchange.asked? = [(st.sql, Dispatcher.valuesOf st)]

/-- The driver was asked for a connection only, and failed so. -/
def Unobtained (f : Failure) (xs : List Exchange) : Prop :=
  (∃ cs, xs = [.connect cs (.error f)]) ∨ ∃ p, xs = [.acquire p (.error f)]

theorem Unobtained.not_ran {f : Failure} {xs : List Exchange} (h : Unobtained f xs) (st : Statement) : ¬Ran st xs := by
  rcases h with ⟨cs, rfl⟩ | ⟨p, rfl⟩ <;> (intro ran; cases ran)

theorem Unobtained.unique {f f' : Failure} {xs : List Exchange} (h : Unobtained f xs) (h' : Unobtained f' xs) :
    f' = f := by
  rcases h with ⟨cs, rfl⟩ | ⟨p, rfl⟩ <;> rcases h' with ⟨_, same⟩ | ⟨_, same⟩ <;> cases same <;> rfl

/-- From the first world to the second, the statement was sent, unless a warning kept the connection back. -/
def Sent (dp : Dispatcher) (st : Statement) (w v : RecordedWorld σ κ π) : Prop :=
  ∃ xs, v.record = w.record ++ xs ∧ (Ran st xs ↔ ∀ e, ¬Unobtained (.refused e) xs) ∧
    ∀ e, Unobtained (.refused e) xs → e.isDriver = true ∧ e.isWarning dp.warningLead = .ok true

/-- The world works with the recorded driver, and its journal takes these notes. -/
structure RecordedWorld.Faithful (d : Driver σ κ π) (notes : Note → Prop) (w : RecordedWorld σ κ π) : Prop where
  driver : w.registry.driver = d.recorded
  takes : w.Takes notes

namespace RecordedWorld.Faithful

variable {notes : Note → Prop} {w v : RecordedWorld σ κ π}

theorem alike (h : w.Faithful d notes) (a : w.Alike v) (bound : v.bound = w.bound) : v.Faithful d notes :=
  ⟨by rw [a.registry]; exact h.driver, h.takes.congr a.writes bound⟩

theorem adds {x : Exchange} (h : w.Faithful d notes) (a : w.Adds x v) : v.Faithful d notes :=
  ⟨by rw [a.registry]; exact h.driver, h.takes.congr a.writes a.bound⟩

/-- A run that neither calls the driver nor changes the registry, and leaves what is bound as it was. -/
theorem quiet (h : w.Faithful d notes) {x : Run (Recorded σ) (Numbered κ) (Numbered π) α} (q : Run.Quiet x)
    (leaves : Run.LeavesBound x) : RecordedWorld.Faithful d notes (x.run w).2 :=
  h.alike (q w) (leaves w)

end RecordedWorld.Faithful

open RecordedWorld

/-! ## Statements -/

namespace Dispatcher

variable {dp : Dispatcher} {identity schemaName : Value} {st : Statement} {w : RecordedWorld σ κ π}

theorem sends_runOn (dp : Dispatcher) (st : Statement) (h : w.Faithful d (dp.Announces st)) (c : Numbered κ) :
    ∃ r, ∃ v : RecordedWorld σ κ π, (dp.runOn st c).run w = (r, v) ∧ v.registry.driver = d.recorded ∧
      v.record = w.record ++ [.query c.number st.sql (valuesOf st) r] := by
  obtain ⟨u, announced, same⟩ := run_announce_ok dp st h.takes
  have driver : u.registry.driver = d.recorded := by rw [same.registry]; exact h.driver
  obtain ⟨r, v, run, adds⟩ := call_query driver c st.sql (valuesOf st)
  refine ⟨r, v, (Run.run_bind_ok announced).trans run, by rw [adds.registry]; exact driver, ?_⟩
  rw [adds.record, record_alike same]

/-- What follows the opening of a connection: it is told, kept and told again. -/
theorem exists_keeping {notes : Note → Prop} (h : w.Faithful d notes) (identity : Value)
    (e : Entry (Numbered κ) (Numbered π)) (c : Numbered κ) :
    ∃ r, ∃ v : RecordedWorld σ κ π, (do
        let reg ← Run.registry
        Run.logAll reg.driver.opened
        Run.changeRegistry fun reg => reg.update identity { e with conn := some c }
        Run.log openedNote
        return c : Run _ _ _ (Numbered κ)).run w = (r, v) ∧ v.Faithful d notes ∧ v.record = w.record ∧
      (r = .ok c ∨ ∃ f, r = .error (.broken f)) := by
  rw [Run.run_bind_ok (Run.run_registry w)]
  have told := h.quiet (Run.quiet_logAll w.registry.driver.opened) (Run.leavesBound_logAll _)
  have still := record_alike (Run.quiet_logAll w.registry.driver.opened w)
  have answers := Run.answers_logAll w.registry.driver.opened w
  revert told still answers
  rcases logged : (Run.logAll w.registry.driver.opened).run w with ⟨q, u⟩
  intro told still answers
  cases q with
  | error f =>
    refine ⟨_, u, Run.run_bind_error logged, told, still, Or.inr ?_⟩
    cases f with
    | refused e' => exact absurd rfl (answers e')
    | broken f => exact ⟨f, rfl⟩
  | ok _ =>
    let kept : RecordedWorld σ κ π := { u with registry := u.registry.update identity { e with conn := some c } }
    have keeps : kept.Faithful d notes := ⟨told.driver, told.takes⟩
    have told' := keeps.quiet (Run.quiet_log openedNote) (Run.leavesBound_log _)
    have still' := record_alike (Run.quiet_log openedNote kept)
    rw [Run.run_bind_ok logged, Run.run_bind_ok (Run.run_changeRegistry _ u)]
    rcases Run.fst_log openedNote kept with well | ⟨_, f, _, refused⟩
    · exact ⟨_, _, Run.run_bind_ok (Prod.ext well rfl), told', still'.trans still, Or.inl rfl⟩
    · exact ⟨_, _, Run.run_bind_error (Prod.ext refused rfl), told', still'.trans still, Or.inr ⟨f, rfl⟩⟩

/-- With a connection the statement is sent; otherwise the run ends as the driver's refusal, or with a fault. -/
theorem sends_withConnection (dp : Dispatcher) (st : Statement) (h : w.Faithful d (dp.Announces st)) (identity : Value)
    (e : Entry (Numbered κ) (Numbered π)) :
    ∃ r, ∃ v : RecordedWorld σ κ π, ∃ xs, (withConnection identity e (dp.runOn st)).run w = (r, v) ∧
      v.record = w.record ++ xs ∧ (Ran st xs ∨ ∃ f, r = .error f ∧ (Unobtained f xs ∨ ∃ b, f = .broken b)) := by
  unfold withConnection
  split
  · next p _ =>
    obtain ⟨r, v, run, adds⟩ := call_acquire h.driver p
    cases r with
    | error f =>
      exact ⟨_, v, _, Run.run_bind_error run, adds.record, Or.inr ⟨f, rfl, Or.inl (Or.inr ⟨_, rfl⟩)⟩⟩
    | ok c =>
      obtain ⟨q, u, ran, driver, queried⟩ := sends_runOn dp st (h.adds adds) ⟨w.record.length, c⟩
      obtain ⟨back, u', closing, closed⟩ := call_close driver ⟨w.record.length, c⟩
      have grown := closed.record
      rw [queried, adds.record, List.append_assoc, List.append_assoc] at grown
      refine ⟨_, u', _, (Run.run_bind_ok run).trans (Prod.ext rfl ?_), grown, Or.inl rfl⟩
      rw [Run.snd_ensure, ran, closing]
  · split
    · next c _ =>
      obtain ⟨r, v, ran, _, queried⟩ := sends_runOn dp st h c
      exact ⟨r, v, _, ran, queried, Or.inl rfl⟩
    · obtain ⟨r, v, run, adds⟩ := call_connect h.driver e.connectionString
      cases r with
      | error f =>
        have opening : (openKept identity e).run w = (.error f, v) := Run.run_bind_error run
        exact ⟨_, v, _, Run.run_bind_error opening, adds.record, Or.inr ⟨f, rfl, Or.inl (Or.inl ⟨_, rfl⟩)⟩⟩
      | ok c =>
        obtain ⟨q, u, keeping, faithful, still, ended⟩ :=
          exists_keeping (h.adds adds) identity e ⟨w.record.length, c⟩
        have opening : (openKept identity e).run w = (q, u) := (Run.run_bind_ok run).trans keeping
        rcases ended with rfl | ⟨b, rfl⟩
        · obtain ⟨q, u', ran, _, queried⟩ := sends_runOn dp st faithful ⟨w.record.length, c⟩
          have grown := queried
          rw [still, adds.record, List.append_assoc] at grown
          exact ⟨q, u', _, (Run.run_bind_ok opening).trans ran, grown, Or.inl rfl⟩
        · exact ⟨_, u, _, Run.run_bind_error opening, still.trans adds.record, Or.inr ⟨_, rfl, Or.inr ⟨b, rfl⟩⟩⟩

/-- A good answer is that of the rows, or of a warning. -/
theorem ended_of_answer_ok {r : Except Failure Rows} {rows : Rows}
    (h : ((dp.answer identity schemaName st r).run w).1 = .ok (.ok rows)) :
    r = .ok rows ∨ ∃ e, r = .error (.refused e) ∧ e.isDriver = true ∧ e.isWarning dp.warningLead = .ok true := by
  unfold answer at h
  split at h
  · cases h
    exact Or.inl rfl
  · cases h
  · next e =>
    split at h
    · next driver =>
      obtain ⟨_, u, _, sorted⟩ := Run.exists_of_run_bind_ok (Prod.ext h rfl)
      obtain ⟨warns, _, read, sorted⟩ := Run.exists_of_run_bind_ok sorted
      have decided : e.isWarning dp.warningLead = .ok warns := Failure.ok_of_lift_fault (congrArg Prod.fst read)
      cases warns with
      | true => exact Or.inr ⟨e, rfl, driver, decided⟩
      | false => cases sorted
    · cases h

/-- **A good answer to a statement** means that it was sent, unless a warning kept the connection back. -/
theorem sent_execute (driver : w.registry.driver = d.recorded)
    (takes : (w.serving identity schemaName).Takes (dp.Announces st)) {rows : Rows} {v : RecordedWorld σ κ π}
    (run : (dp.execute identity st schemaName).run w = (.ok (.ok rows), v)) : Sent dp st w v := by
  obtain ⟨e, found⟩ := resolve_of_execute_ok run
  have inside : RecordedWorld.Faithful d (dp.Announces st) (w.serving identity schemaName) := ⟨driver, takes⟩
  obtain ⟨r, u, xs, ended, grown, ran⟩ := sends_withConnection dp st inside identity e
  rw [run_execute found ended] at run
  obtain ⟨answered, rfl⟩ := Prod.mk.inj run
  have good := ended_of_answer_ok answered
  refine ⟨xs, (record_alike (quiet_answer dp identity schemaName st r u)).trans grown, ?_, ?_⟩
  · constructor
    · intro ran e unobtained
      exact unobtained.not_ran st ran
    · intro obtained
      rcases ran with ran | ⟨f, rfl, unobtained | ⟨b, rfl⟩⟩
      · exact ran
      · rcases good with ended | ⟨e, ended, _⟩
        · cases ended
        · cases ended
          exact absurd unobtained (obtained e)
      · rcases good with ended | ⟨e, ended, _⟩ <;> cases ended
  · intro e unobtained
    rcases ran with ran | ⟨f, rfl, unobtained' | ⟨b, rfl⟩⟩
    · exact absurd ran (unobtained.not_ran st)
    · cases unobtained'.unique unobtained
      rcases good with ended | ⟨e', ended, driver, warns⟩
      · cases ended
      · cases ended
        exact ⟨driver, warns⟩
    · rcases good with ended | ⟨e, ended, _⟩ <;> cases ended

end Dispatcher

/-! ## Parts of operations -/

/-- Whenever the run answers well, and the journal takes what is announced of the statement that is built from the
registry, this statement was sent. -/
def Sends (d : Driver σ κ π) (dp : Dispatcher) (identity schemaName : Value)
    (built : Registry (Recorded σ) (Numbered κ) (Numbered π) → Except Failure Statement)
    (x : Run (Recorded σ) (Numbered κ) (Numbered π) (Outcome Error α)) : Prop :=
  ∀ (w v : RecordedWorld σ κ π) a, w.registry.driver = d.recorded →
    (∀ st, built w.registry = .ok st → (w.serving identity schemaName).Takes (dp.Announces st)) →
    x.run w = (.ok (.ok a), v) → ∃ st, built w.registry = .ok st ∧ Sent dp st w v

theorem follows_record : Follows (fun w v : RecordedWorld σ κ π => v.record = w.record) :=
  ⟨record_alike, fun h g => g.trans h⟩

namespace Sends

variable {dp : Dispatcher} {built : Registry (Recorded σ) (Numbered κ) (Numbered π) → Except Failure Statement}
  {identity schemaName : Value}

theorem execute (st : Statement) : Sends d dp identity schemaName (fun _ => .ok st)
    (dp.execute identity st schemaName : Run _ (Numbered κ) (Numbered π) _) :=
  fun _ _ _ driver takes run => ⟨st, rfl, Dispatcher.sent_execute driver (takes st rfl) run⟩

/-- What follows a good answer calls the driver no more. -/
theorem andThen {x : Run (Recorded σ) (Numbered κ) (Numbered π) (Outcome Error α)}
    {f : Outcome Error α → Run (Recorded σ) (Numbered κ) (Numbered π) (Outcome Error β)}
    (hx : Sends d dp identity schemaName built x) (fails : ∀ e w v b, (f (.error e)).run w ≠ (.ok (.ok b), v))
    (silent : ∀ a, Run.Leads (fun w v : RecordedWorld σ κ π => v.record = w.record) (f (.ok a))) :
    Sends d dp identity schemaName built (x >>= f) := by
  intro w v b driver takes run
  obtain ⟨r, u, first, rest⟩ := Run.exists_of_run_bind_ok run
  cases r with
  | error e => exact absurd rest (fails e u v b)
  | ok a =>
    obtain ⟨st, hst, xs, grown, ran⟩ := hx w u a driver takes first
    have still := silent a u
    rw [rest] at still
    exact ⟨st, hst, xs, still.trans grown, ran⟩

/-- What comes before only looks. -/
theorem after {γ : Type} {x : Run (Recorded σ) (Numbered κ) (Numbered π) γ} (still : Run.Still x)
    {f : γ → Run (Recorded σ) (Numbered κ) (Numbered π) (Outcome Error β)}
    (hf : ∀ w c, (x.run w).1 = .ok c → Sends d dp identity schemaName (fun _ => built w.registry) (f c)) :
    Sends d dp identity schemaName built (x >>= f) := by
  intro w v b driver takes run
  obtain ⟨c, u, first, rest⟩ := Run.exists_of_run_bind_ok run
  have same := still w
  rw [first] at same
  obtain rfl : u = w := same
  exact hf u c (by rw [first]) u v b driver takes rest

/-- The statement is built before, or the error of building it is the answer. -/
theorem afterAnswered {γ : Type} {x : Run (Recorded σ) (Numbered κ) (Numbered π) γ} (still : Run.Still x)
    {f : Outcome Error γ → Run (Recorded σ) (Numbered κ) (Numbered π) (Outcome Error β)}
    (fails : ∀ e w v b, (f (.error e)).run w ≠ (.ok (.ok b), v))
    (hf : ∀ w c, (x.run w).1 = .ok c → Sends d dp identity schemaName (fun _ => built w.registry) (f (.ok c))) :
    Sends d dp identity schemaName built (Gateway.answered identity schemaName x >>= f) := by
  refine after (Gateway.still_answered still) fun w r answered => ?_
  cases r with
  | error e => exact fun w v b _ _ run => absurd run (fails e w v b)
  | ok c => exact hf w c (Gateway.fst_answered_ok answered)

end Sends

/-! ## Operations -/

namespace Gateway

variable {g : Gateway} {identity schemaName : Value}

theorem sends_answering {built : Registry (Recorded σ) (Numbered κ) (Numbered π) → Except Failure Statement}
    {f : α → Answer} {x : Run (Recorded σ) (Numbered κ) (Numbered π) (Outcome Error α)}
    (hx : Sends d g.dispatcher identity schemaName built x) :
    Sends d g.dispatcher identity schemaName built (answering f x) :=
  hx.andThen (fun _ _ _ _ run => by cases run) fun _ => (Run.quiet_pure _).leads follows_record

theorem sends_mapped {built : Registry (Recorded σ) (Numbered κ) (Numbered π) → Except Failure Statement}
    {f : α → Except Fault β} {x : Run (Recorded σ) (Numbered κ) (Numbered π) (Outcome Error α)}
    (hx : Sends d g.dispatcher identity schemaName built x) :
    Sends d g.dispatcher identity schemaName built (mapped f x) :=
  hx.andThen (fun _ _ _ _ run => by cases run) fun _ => (Run.quiet_lift _).leads follows_record

theorem sends_define (desc : Description) :
    Sends (κ := κ) (π := π) d g.dispatcher identity schemaName
      (fun r => Operation.creating g r identity schemaName desc) (g.define identity schemaName desc) := by
  have built : Run.Still (do
      let _ ← Registry.resolved identity
      let s ← Run.lift (schemaMeant schemaName desc)
      let st ← Run.lift (Schema.createTable g.dialect g.keyType s.table s)
      return (s, st) : Run (Recorded σ) (Numbered κ) (Numbered π) _) :=
    Run.still_bind (Registry.still_resolved identity) fun _ => Run.still_bind (Run.still_lift _) fun _ =>
      Run.still_bind (Run.still_lift _) fun _ => Run.still_pure _
  refine Sends.afterAnswered built (fun _ _ _ _ run => by cases run) fun w c read => ?_
  obtain ⟨s, st⟩ := c
  have created : Operation.creating g w.registry identity schemaName desc = .ok st := by
    rw [← fst_define, read]
    rfl
  rw [created]
  refine (Sends.execute st).andThen (fun _ _ _ _ run => by cases run) fun rows => ?_
  refine Run.leads_bind follows_record ?_ fun _ => (Run.quiet_pure _).leads follows_record
  exact Registry.leads_addSchema follows_record fun _ _ _ => rfl

theorem sends_describe :
    Sends (κ := κ) (π := π) d g.dispatcher identity schemaName (fun r => Operation.describing g r identity schemaName)
      (g.describe identity schemaName) := by
  refine Sends.afterAnswered still_tableName (fun _ _ _ _ run => by cases run) ?_
  intro w table read
  refine Sends.after (Run.still_lift _) fun v st lifted => ?_
  have described : Operation.describing g w.registry identity schemaName = .ok st := by
    rw [fst_tableName] at read
    unfold Operation.describing
    rw [read]
    exact lifted
  rw [described]
  refine (Sends.execute st).andThen (fun _ _ _ _ run => by cases run) fun rows => ?_
  refine Run.leads_bind follows_record ?_ fun _ => (Run.quiet_pure _).leads follows_record
  exact (quiet_readCatalog table rows).leads follows_record

theorem sends_query (sql : String) (params : Value) :
    Sends (κ := κ) (π := π) d g.dispatcher identity schemaName (fun _ => liftM (Dispatcher.statementOf sql params))
      (g.query identity schemaName sql params) := by
  refine Sends.after (Run.still_lift _) fun w st read => ?_
  rw [show (liftM (Dispatcher.statementOf sql params) : Except Failure _) = .ok st from read]
  exact Sends.execute st

theorem sends_request (r : Request) :
    Sends (κ := κ) (π := π) d g.dispatcher identity schemaName
      (fun reg => Operation.requesting g reg identity schemaName r) (g.request identity schemaName r) := by
  have built : Run.Still (do
      let s ← registered identity schemaName
      Run.lift (r.build g.dialect s) : Run (Recorded σ) (Numbered κ) (Numbered π) _) :=
    Run.still_bind still_registered fun _ => Run.still_lift _
  refine Sends.afterAnswered built (fun _ _ _ _ run => by cases run) fun w st read => ?_
  have meant : Operation.requesting g w.registry identity schemaName r = .ok st := by
    rw [← fst_request, read]
  rw [meant]
  exact Sends.execute st

theorem sends_perform {o : Operation} {built : Except Failure Statement} {w v : RecordedWorld σ κ π} {a : Answer}
    (single : o.statement? g w.registry identity schemaName = some built) (driver : w.registry.driver = d.recorded)
    (takes : ∀ st, built = .ok st → (w.serving identity schemaName).Takes (g.dispatcher.Announces st))
    (run : (g.perform identity schemaName o).run w = (.ok (.ok a), v)) :
    ∃ st, built = .ok st ∧ Sent g.dispatcher st w v := by
  cases o with
  | define desc =>
    cases single
    exact sends_answering (sends_define desc) w v a driver takes run
  | describe =>
    cases single
    exact sends_answering sends_describe w v a driver takes run
  | drop relations => cases single
  | query sql params =>
    cases single
    exact sends_answering (sends_query sql params) w v a driver takes run
  | request r =>
    cases single
    cases r with
    | findOne | count | create => exact sends_answering (sends_mapped (sends_request _)) w v a driver takes run
    | find | update | destroy | truncate => exact sends_answering (sends_request _) w v a driver takes run

/-- **When a good answer means that the statement ran.** An operation with a single statement that answers well has
built the statement, and has sent it exactly once, as it was built, unless the driver refused a connection. That
happens only when the refusal counts as a warning, and then nothing was sent. The journal has to take what is announced
of the statement. -/
theorem ran_iff_obtained {o : Operation} {built : Except Failure Statement} {w v : RecordedWorld σ κ π} {a : Answer}
    (driver : w.registry.driver = d.recorded) (single : o.statement? g w.registry identity schemaName = some built)
    (takes : ∀ st, built = .ok st → (w.serving identity schemaName).Takes (g.dispatcher.Announces st))
    (run : (g.perform identity schemaName o).run w = (.ok (.ok a), v)) :
    ∃ st xs, built = .ok st ∧ v.record = w.record ++ xs ∧ (Ran st xs ↔ ∀ e, ¬Unobtained (.refused e) xs) ∧
      ∀ e, Unobtained (.refused e) xs → e.isDriver = true ∧ e.isWarning g.dispatcher.warningLead = .ok true := by
  obtain ⟨st, hst, xs, grown, ran, warns⟩ := sends_perform single driver takes run
  exact ⟨st, xs, hst, grown, ran, warns⟩

/-- A connection under the identity `a`, behind this driver. The journal is written as records. -/
def kept (d : Driver Unit Unit Unit) : RecordedWorld Unit Unit Unit where
  engine := { engine := () }
  registry := { driver := d.recorded, entries := ⟨[(.text "a", { config := { identity := .text "a" } })]⟩ }
  writes := LogSetup.recording.takes ""

/-- With a connection, the statement of a good answer ran. -/
theorem ran_query :
    let w := kept (.steady (.ok ()) (.ok [.int 1]) (.ok ()))
    let ended := (perform {} (.text "a") .null (.query "SELECT 1" (.list [.int 2]))).run w
    ended.1 = .ok (.ok (.rows [.int 1])) ∧ Ran ⟨"SELECT 1", [.int 2]⟩ (RecordedWorld.record ended.2) := by
  intro w ended
  have bound := World.plain_serving (w := w) Bindings.plain_nil (LogSetup.holds_text "a") LogSetup.holds_null
  have takes (st : Statement) : (w.serving (.text "a") .null).Takes (Dispatcher.Announces {} st) :=
    World.takes_of_plain LogSetup.holds_recording rfl bound fun _ => Dispatcher.plain_of_announces
  have run : ended = (.ok (.ok (.rows [.int 1])), ended.2) := Prod.ext rfl rfl
  obtain ⟨st, xs, built, grown, ran, _⟩ := ran_iff_obtained rfl rfl (fun st _ => takes st) run
  have two : (RecordedWorld.record ended.2).length = 2 := rfl
  have grown : RecordedWorld.record ended.2 = xs := grown
  cases built
  refine ⟨rfl, ?_⟩
  rw [grown]
  refine ran.2 fun e unobtained => ?_
  rw [grown] at two
  rcases unobtained with ⟨_, rfl⟩ | ⟨_, rfl⟩ <;> cases two

/-- The connection is refused with a warning: the table is said not to exist, and nothing was sent. -/
theorem described_unsent :
    let w := kept (.steady (.error (.refused (Error.engine "boom" "01522"))) (.ok []) (.ok ()))
    let ended := (perform {} (.text "a") (.text "s") .describe).run w
    ended.1 = .ok (.ok (.schema none)) ∧ (RecordedWorld.record ended.2).filterMap Exchange.asked? = [] :=
  ⟨rfl, rfl⟩

end Gateway

end TableGateway
